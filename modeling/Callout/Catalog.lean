import Callout.Assembler

namespace Callout.Catalog

structure TagDefinition where
  tag : String
  phrases : List String
  keys : List Key
  deriving DecidableEq, Repr

structure DirectObjectDefinition where
  name : String
  tags : List TagDefinition
  deriving DecidableEq, Repr

structure CommandDefinition where
  id : String
  phrases : List String
  keys : List Key
  addressed : Bool
  directObject : Option DirectObjectDefinition
  deriving DecidableEq, Repr

def utility (id : String) (phrases : List String) (keys : List Key) : CommandDefinition :=
  ⟨id, phrases, keys, false, none⟩

def order (id : String) (phrases : List String) (keys : List Key) : CommandDefinition :=
  ⟨id, phrases, keys, true, none⟩

def orderWith (id : String) (phrases : List String) (keys : List Key)
    (directObject : DirectObjectDefinition) : CommandDefinition :=
  ⟨id, phrases, keys, true, some directObject⟩

def subjects : List TagDefinition :=
  [⟨"ONE", ["one", "unit one"], [.f1]⟩,
   ⟨"TWO", ["two", "unit two"], [.f2]⟩,
   ⟨"THREE", ["three", "unit three"], [.f3]⟩,
   ⟨"FOUR", ["four", "unit four"], [.f4]⟩,
   ⟨"FIVE", ["five", "unit five"], [.f5]⟩,
   ⟨"SIX", ["six", "unit six"], [.f6]⟩,
   ⟨"SEVEN", ["seven", "unit seven"], [.f7]⟩,
   ⟨"EIGHT", ["eight", "unit eight"], [.f8]⟩,
   ⟨"NINE", ["nine", "unit nine"], [.f9]⟩,
   ⟨"TEN", ["ten", "unit ten"], [.f10]⟩,
   ⟨"ALL", ["all", "all units", "everyone", "everybody", "squad"], [.grave]⟩]

def directions : DirectObjectDefinition :=
  ⟨"directionDO",
    [⟨"NORTH", ["north"], [.one]⟩,
     ⟨"NORTHEAST", ["north east"], [.two]⟩,
     ⟨"EAST", ["east"], [.three]⟩,
     ⟨"SOUTHEAST", ["south east"], [.four]⟩,
     ⟨"SOUTH", ["south"], [.five]⟩,
     ⟨"SOUTHWEST", ["south west"], [.six]⟩,
     ⟨"WEST", ["west"], [.seven]⟩,
     ⟨"NORTHWEST", ["north west"], [.eight]⟩]⟩

def teams : DirectObjectDefinition :=
  ⟨"teamDO",
    [⟨"RED", ["team red", "red"], [.one]⟩,
     ⟨"GREEN", ["team green", "green"], [.two]⟩,
     ⟨"BLUE", ["team blue", "blue"], [.three]⟩,
     ⟨"YELLOW", ["team yellow", "yellow"], [.four]⟩,
     ⟨"WHITE", ["team white", "white"], [.five]⟩]⟩

def commands : List CommandDefinition :=
  [utility "MAP" ["map", "toggle map", "show map", "hide map", "open map", "close map"] [.m],
   utility "INVENTORY"
     ["inventory", "toggle inventory", "show inventory", "hide inventory", "open inventory",
      "close inventory"] [.i],
   utility "LIGHTS" ["lights", "light", "flashlight", "torch", "laser"] [.l],
   -- Move (1)
   order "FORMUP"
     ["return to formation", "form up", "fallback", "fall back", "regroup", "join up",
      "rally on me", "rally to me", "with me"] [.one, .one],
   order "ADVANCE" ["advance", "move up"] [.one, .two],
   order "STAYBACK" ["stay back", "go back", "back up"] [.one, .three],
   order "FLANKLEFT" ["flank left", "go left"] [.one, .four],
   order "FLANKRIGHT" ["flank right", "go right"] [.one, .five],
   order "STOP"
     ["stop", "hold position", "halt", "stay there", "stay here", "stay put"] [.one, .six],
   order "WAIT" ["wait for me", "wait up", "wait"] [.one, .seven],
   order "COVER"
     ["go for cover", "look for cover", "cover", "find cover", "get to cover", "hide", "take cover"]
     [.one, .eight],
   order "NEXTWAYPOINT" ["next waypoint", "go to the next waypoint"] [.one, .nine],
   order "MOVETO" ["move to", "move", "move there", "move up"] [.space],
   -- Target (2)
   order "OPENTARGET" ["show targets", "target menu", "open target menu", "targets"] [.two],
   order "CANCELTARGET" ["cancel target", "cancel targets", "no target"] [.two, .one],
   -- Engage (3)
   order "OPENFIRE" ["open fire", "go loud", "fire at will"] [.three, .one],
   order "HOLDFIRE" ["hold fire", "go quiet", "cease fire"] [.three, .two],
   order "FIRE" ["fire", "take the shot"] [.three, .three],
   order "ENGAGE" ["engage", "move to engage"] [.three, .four],
   order "ENGAGEATWILL" ["engage at will"] [.three, .five],
   order "DISENGAGE" ["disengage"] [.three, .six],
   order "SCANHORIZON" ["scan horizon", "scan the horizon"] [.three, .seven],
   orderWith "WATCH" ["watch", "watch the"] [.three, .eight] directions,
   order "SUPPRESS" ["suppressive fire", "suppress"] [.three, .nine],
   -- Mount (4)
   order "OPENMOUNT"
     ["show mount menu", "open mount menu", "show vehicles", "mount menu", "get in vehicle",
      "get in that vehicle"] [.four],
   order "DISMOUNT" ["dismount", "get out"] [.four, .one],
   -- Status (5)
   order "LOWFUEL"
     ["fuel low", "bingo fuel", "be advised bingo fuel", "be advised low fuel",
      "be advised fuel low"] [.five, .two],
   order "LOWAMMO" ["I'm running low on ammo", "running low on ammo", "ammo low"] [.five, .three],
   order "INJURED"
     ["I'm injured", "injured", "medic", "I need a medic", "I need some help",
      "I need some help now", "somebody help me", "wounded", "I'm hit", "fuck I'm hurt"]
     [.five, .four],
   order "SITREP" ["report in over", "sitrep", "report status", "report in"] [.five, .five],
   order "UNDERFIRE" ["I'm under fire", "taking fire", "under fire", "enemy fire"] [.five, .six],
   order "HOSTILEDOWN"
     ["hostile down", "target down", "scratch one", "he is down", "target neutralized",
      "tango down"] [.five, .seven],
   order "KIA"
     ["we have lost one", "man down", "he is hit", "shit we have got a man down",
      "we have got a man down"] [.five, .eight],
   -- Action (6)
   order "OPENACTION"
     ["show actions", "action menu", "perform action", "do action", "open action menu", "actions"]
     [.six],
   -- Combat mode (7)
   order "STEALTH" ["stealth", "stealthy", "stealth mode"] [.seven, .one],
   order "COMBAT" ["combat", "danger", "combat mode"] [.seven, .two],
   order "AWARE"
     ["aware", "alert", "aware mode", "stay sharp", "stay frosty", "stay alert"] [.seven, .three],
   order "RELAX" ["relax", "relaxed mode", "safe"] [.seven, .four],
   order "STANDUP" ["stand up", "get up", "stand"] [.seven, .six],
   order "CROUCH" ["get low", "crouch", "stay crouched", "stay low"] [.seven, .seven],
   order "PRONE" ["go prone", "get down", "prone", "hit the dirt", "down"] [.seven, .eight],
   order "COPYMYSTANCE" ["copy my stance", "default stance"] [.seven, .nine],
   -- Formation (8)
   order "COLUMN" ["formation column", "form column"] [.eight, .one],
   order "STAGGEREDCOLUMN" ["formation staggered column", "form staggered column"] [.eight, .two],
   order "WEDGE" ["formation wedge", "form wedge"] [.eight, .three],
   order "ECHELONLEFT" ["formation echelon left", "form echelon left"] [.eight, .four],
   order "ECHELONRIGHT" ["formation echelon right", "form echelon right"] [.eight, .five],
   order "VEE" ["formation vee", "form vee"] [.eight, .six],
   order "LINE" ["formation line", "form line"] [.eight, .seven],
   order "FILE" ["formation file", "form file"] [.eight, .eight],
   order "DIAMOND" ["formation diamond", "form diamond"] [.eight, .nine],
   -- Assign team (9)
   orderWith "ASSIGN" ["assign", "assign to", "add to", "switch to", "you're"] [.nine] teams]

def taps (keys : List Key) : List KeyOperation :=
  keys.map .tap

def fill (s : Slot) (tags : List TagDefinition) : Except Error Slot :=
  tags.foldlM (fun s t => s.addEntry t.phrases t.tag (taps t.keys)) s

def subjectSlot (maxSubjects : Nat) : Except Error Slot :=
  fill (.subject "subject" maxSubjects) subjects

def CommandDefinition.command (d : CommandDefinition) (subject : SlotReference) :
    Except Error Command := do
  let slot ← d.directObject.mapM fun o => fill (.directObject o.name) o.tags
  return .new d.id d.phrases (taps d.keys) (if d.addressed then some subject else none) slot

def addCommands (a : Assembler) : List CommandDefinition → Assembler × Except Error Unit
  | [] => (a, .ok ())
  | d :: ds =>
    match d.command a.subjectRef >>= a.addCommand with
    | .ok a => addCommands a ds
    | .error e => (a, .error e)

def register (a : Assembler) : Assembler × Except Error Unit :=
  addCommands a commands

def assemble (culture : String) (maxSubjects : Nat) : Except Error (Grammar × Registry) := do
  let a ← Assembler.new culture (← subjectSlot maxSubjects)
  match register a with
  | (a, .ok ()) => return a.build
  | (_, .error e) => .error e

end Callout.Catalog
