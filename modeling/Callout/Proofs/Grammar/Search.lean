import Callout.Proofs.Grammar.Interpretation

namespace Callout

namespace Path

theorem furtherRounds_nil (step : Step) (k : Nat) : furtherRounds step k [] = [] := by
  cases k <;> rfl

theorem furtherRounds_succ (step : Step) (k : Nat) (paths : List Path) :
    furtherRounds step (k + 1) paths =
      paths ++ furtherRounds step k (paths.flatMap (consuming step)) := by
  cases paths with
  | nil => rw [List.flatMap_nil, furtherRounds_nil, furtherRounds_nil, List.nil_append]
  | cons p paths => rfl

theorem length_lt_of_mem_consuming {step : Step} {paths : List Path} {b : Nat}
    (short : ∀ p ∈ paths, p.rest.length < b + 1) :
    ∀ q ∈ paths.flatMap (consuming step), q.rest.length < b := by
  intro q member
  obtain ⟨p, earlier, member⟩ := List.mem_flatMap.mp member
  have used : q.rest.length < p.rest.length := of_decide_eq_true (List.mem_filter.mp member).2
  have := short p earlier
  omega

theorem furtherRounds_of_le {step : Step} {paths : List Path} {k n : Nat}
    (short : ∀ p ∈ paths, p.rest.length < k + 1) (enough : k ≤ n) :
    furtherRounds step n paths = furtherRounds step k paths := by
  induction k generalizing n paths with
  | zero =>
    have none : paths.flatMap (consuming step) = [] :=
      List.eq_nil_iff_forall_not_mem.mpr fun q member =>
        Nat.not_lt_zero _ (length_lt_of_mem_consuming short q member)
    cases n with
    | zero => rfl
    | succ n => rw [furtherRounds_succ, none, furtherRounds_nil, List.append_nil, furtherRounds]
  | succ k ih =>
    obtain ⟨n, rfl⟩ := Nat.exists_eq_add_of_le' (Nat.le_trans (Nat.succ_pos k) enough)
    rw [furtherRounds_succ, furtherRounds_succ,
      ih (length_lt_of_mem_consuming short) (Nat.le_of_succ_le_succ enough)]

def behind (words : List String) (position : Nat) (assigned : List (String × String)) : Path :=
  ⟨words.drop position, assigned⟩

theorem takeWords_behind {ws words : List String} {position : Nat}
    (within : position ≤ words.length) (assigned : List (String × String)) :
    takeWords ws (behind words position assigned) =
      if position + ws.length ≤ words.length ∧
          words.extract position (position + ws.length) = ws then
        [behind words (position + ws.length) assigned]
      else [] := by
  have slice : words.extract position (position + ws.length) =
      (words.drop position).take ws.length := by
    rw [List.extract_eq_take_drop, Nat.add_sub_cancel_left]
  rw [slice]
  by_cases spoken : position + ws.length ≤ words.length ∧
      (words.drop position).take ws.length = ws
  · have starts : words.drop position = ws ++ words.drop (position + ws.length) := by
      have parts := (List.take_append_drop ws.length (words.drop position)).symm
      rwa [spoken.2, List.drop_drop] at parts
    simp only [takeWords, behind, after?_eq_some_iff.mpr starts, if_pos spoken]
  · have refused : after? ws (words.drop position) = none := by
      rw [Option.eq_none_iff_forall_ne_some]
      intro rest found
      have starts := after?_eq_some_iff.mp found
      have lengths := congrArg List.length starts
      rw [List.length_drop, List.length_append] at lengths
      exact spoken ⟨by omega, by rw [starts, List.take_left]⟩
    simp only [takeWords, behind, refused, if_neg spoken]

theorem repeated_some {step : Step} {min most : Nat} {p : Path} (enough : min ≤ most) :
    repeated step min (some most) p = furtherRounds step (most - min) (rounds step min [p]) :=
  if_neg (Nat.not_lt.mpr enough)

def kept (consume : Bool) (p : Path) (qs : List Path) : List Path :=
  if consume then qs.filter (·.rest.length < p.rest.length) else qs

end Path

namespace Grammar

open Callout.Path

/-- The loop over the rounds of a repetition: how many it has made, the paths that these lead to,
and the paths that the repetition has been found to match. -/
structure Loop where
  count : Nat
  frontier : List Path
  found : List Path

namespace Loop

def start (p : Path) : Loop :=
  ⟨0, [p], []⟩

def taken (l : Loop) (min : Nat) : List Path :=
  if min ≤ l.count then l.found ++ l.frontier else l.found

def Over (l : Loop) (max : Option Nat) : Prop :=
  l.frontier = [] ∨ ∃ most ∈ max, most ≤ l.count

end Loop

inductive Call where
  | element (depth : Nat) (e : Element) (p : Path)
  | alternatives (depth : Nat) (es : List Element) (p : Path)
  | parts (depth : Nat) (es : List Element) (ps : List Path)
  | each (depth : Nat) (e : Element) (consume : Bool) (ps : List Path)
  | loop (depth : Nat) (inner : Element) (min : Nat) (max : Option Nat) (l : Loop)

/-- A call comes to an end with some paths. If it is about a repetition, its loop makes the given
number of rounds. -/
inductive Returns (g : Grammar) : Call → Nat → List Path → Prop where
  | phrase {depth : Nat} (text : String) (p : Path) :
      Returns g (.element depth (.phrase text) p) 0 (takeWords (Text.words text) p)
  | oneOf {depth k : Nat} {es : List Element} {p : Path} {qs : List Path}
      (each : Returns g (.alternatives depth es p) k qs) :
      Returns g (.element depth (.oneOf es) p) 0 qs
  | sequence {depth k : Nat} {es : List Element} {p : Path} {qs : List Path}
      (all : Returns g (.parts depth es [p]) k qs) :
      Returns g (.element depth (.sequence es) p) 0 qs
  | tooDeep {depth : Nat} (id : String) (p : Path) (deep : maxNesting ≤ depth) :
      Returns g (.element depth (.ruleRef id) p) 0 []
  | unknown {depth : Nat} {id : String} (p : Path) (missing : g.rule? id = none) :
      Returns g (.element depth (.ruleRef id) p) 0 []
  | ruleRef {depth k : Nat} {id : String} {rule : Rule} {p : Path} {qs : List Path}
      (shallow : depth < maxNesting) (known : g.rule? id = some rule)
      (body : Returns g (.element (depth + 1) rule.body p) k qs) :
      Returns g (.element depth (.ruleRef id) p) 0 qs
  | repetition {depth k min : Nat} {inner : Element} {max : Option Nat} {p : Path}
      {qs : List Path} (rounds : Returns g (.loop depth inner min max (.start p)) k qs) :
      Returns g (.element depth (.repetition inner min max) p) k qs
  | tag {depth : Nat} (t : Tag) (p : Path) : Returns g (.element depth (.tag t) p) 0 (assign t p)
  | noAlternative {depth : Nat} (p : Path) : Returns g (.alternatives depth [] p) 0 []
  | alternative {depth j k : Nat} {e : Element} {es : List Element} {p : Path} {qs rs : List Path}
      (first : Returns g (.element depth e p) j qs)
      (others : Returns g (.alternatives depth es p) k rs) :
      Returns g (.alternatives depth (e :: es) p) 0 (qs ++ rs)
  | noPart {depth : Nat} (ps : List Path) : Returns g (.parts depth [] ps) 0 ps
  -- Without a path the other parts are left out.
  | stuck {depth k : Nat} {e : Element} {es : List Element} {ps : List Path}
      (first : Returns g (.each depth e false ps) k []) :
      Returns g (.parts depth (e :: es) ps) 0 []
  | part {depth j k : Nat} {e : Element} {es : List Element} {ps qs rs : List Path}
      (first : Returns g (.each depth e false ps) j qs) (some : qs ≠ [])
      (others : Returns g (.parts depth es qs) k rs) :
      Returns g (.parts depth (e :: es) ps) 0 rs
  | noPath {depth : Nat} (e : Element) (consume : Bool) :
      Returns g (.each depth e consume []) 0 []
  | path {depth j k : Nat} {e : Element} {consume : Bool} {p : Path} {ps qs rs : List Path}
      (first : Returns g (.element depth e p) j qs)
      (others : Returns g (.each depth e consume ps) k rs) :
      Returns g (.each depth e consume (p :: ps)) 0 (kept consume p qs ++ rs)
  | stop {depth min : Nat} {inner : Element} {max : Option Nat} {l : Loop} (done : l.Over max) :
      Returns g (.loop depth inner min max l) 0 (l.taken min)
  | round {depth min j k : Nat} {inner : Element} {max : Option Nat} {l : Loop}
      {next qs : List Path} (goes : ¬ l.Over max)
      (step : Returns g (.each depth inner (decide (min ≤ l.count)) l.frontier) j next)
      (more : Returns g (.loop depth inner min max ⟨l.count + 1, next, l.taken min⟩) k qs) :
      Returns g (.loop depth inner min max l) (k + 1) qs

variable {g : Grammar} {c : Call} {depth min : Nat} {e inner : Element} {max : Option Nat}

theorem Returns.unique {j k : Nat} {qs rs : List Path} (h : g.Returns c j qs)
    (h' : g.Returns c k rs) : j = k ∧ qs = rs := by
  induction h generalizing k rs with
  | phrase text p =>
    cases h'
    exact ⟨rfl, rfl⟩
  | oneOf _ ih =>
    cases h' with
    | oneOf each => exact ⟨rfl, (ih each).2⟩
  | sequence _ ih =>
    cases h' with
    | sequence all => exact ⟨rfl, (ih all).2⟩
  | tooDeep id p deep =>
    cases h' with
    | tooDeep => exact ⟨rfl, rfl⟩
    | unknown => exact ⟨rfl, rfl⟩
    | ruleRef shallow => omega
  | unknown p missing =>
    cases h' with
    | tooDeep => exact ⟨rfl, rfl⟩
    | unknown => exact ⟨rfl, rfl⟩
    | ruleRef _ known =>
      rw [missing] at known
      cases known
  | ruleRef shallow known _ ih =>
    cases h' with
    | tooDeep _ _ deep => omega
    | unknown _ missing =>
      rw [missing] at known
      cases known
    | ruleRef _ known' body =>
      rw [known] at known'
      obtain rfl := Option.some.inj known'
      exact ⟨rfl, (ih body).2⟩
  | repetition _ ih =>
    cases h' with
    | repetition rounds => exact ih rounds
  | tag t p =>
    cases h'
    exact ⟨rfl, rfl⟩
  | noAlternative p =>
    cases h'
    exact ⟨rfl, rfl⟩
  | alternative _ _ ih ih' =>
    cases h' with
    | alternative first others => exact ⟨rfl, by rw [(ih first).2, (ih' others).2]⟩
  | noPart ps =>
    cases h'
    exact ⟨rfl, rfl⟩
  | stuck _ ih =>
    cases h' with
    | stuck => exact ⟨rfl, rfl⟩
    | part first some => exact absurd (ih first).2.symm some
  | part _ some _ ih ih' =>
    cases h' with
    | stuck first => exact absurd (ih first).2 some
    | part first _ others =>
      obtain ⟨_, rfl⟩ := ih first
      exact ⟨rfl, (ih' others).2⟩
  | noPath e consume =>
    cases h'
    exact ⟨rfl, rfl⟩
  | path _ _ ih ih' =>
    cases h' with
    | path first others => exact ⟨rfl, by rw [(ih first).2, (ih' others).2]⟩
  | stop done =>
    cases h' with
    | stop => exact ⟨rfl, rfl⟩
    | round goes => exact absurd done goes
  | round goes _ _ ih ih' =>
    cases h' with
    | stop done => exact absurd done goes
    | round _ step more =>
      obtain ⟨_, rfl⟩ := ih step
      obtain ⟨rfl, same⟩ := ih' more
      exact ⟨rfl, same⟩

def pathsAt (g : Grammar) (depth : Nat) (e : Element) : Step :=
  e.paths (g.refPaths (maxNesting - depth))

theorem length_le_of_mem_pathsAt {p q : Path} (member : q ∈ g.pathsAt depth e p) :
    q.rest.length ≤ p.rest.length := by
  obtain ⟨ws, _, left, _⟩ := paths_sound g _ e p q member
  rw [left, List.length_append]
  exact Nat.le_add_left _ _

def Follows (g : Grammar) (depth : Nat) (e : Element) : Prop :=
  ∀ p, ∃ k, g.Returns (.element depth e p) k (g.pathsAt depth e p)

theorem Follows.each (follows : g.Follows depth e) (consume : Bool) (ps : List Path) :
    g.Returns (.each depth e consume ps) 0
      (ps.flatMap fun p => kept consume p (g.pathsAt depth e p)) := by
  induction ps with
  | nil => exact .noPath e consume
  | cons p ps ih =>
    obtain ⟨k, first⟩ := follows p
    exact .path first ih

section

variable {l : Loop} {b f r : Nat}

theorem Loop.taken_of_le (enough : min ≤ l.count) : l.taken min = l.found ++ l.frontier :=
  if_pos enough

theorem Loop.taken_of_lt (few : l.count < min) : l.taken min = l.found :=
  if_neg (Nat.not_le.mpr few)

theorem returns_of_over (enough : min ≤ l.count) (limit : ∀ most ∈ max, most = l.count + f)
    (done : l.Over max) (step : Step) :
    g.Returns (.loop depth inner min max l) 0 (l.found ++ furtherRounds step f l.frontier) := by
  have last : furtherRounds step f l.frontier = l.frontier := by
    rcases done with none | ⟨most, bound, reached⟩
    · rw [none, furtherRounds_nil]
    · obtain rfl : f = 0 := by
        have := limit most bound
        omega
      rfl
  rw [last, ← Loop.taken_of_le enough]
  exact .stop done

/-- Past the minimum every round uses up a word. If all paths have fewer than `b` words left, there
are at most `b` more rounds, of which the last finds nothing. -/
theorem Follows.loop_beyond (follows : g.Follows depth inner) (enough : min ≤ l.count)
    (short : ∀ q ∈ l.frontier, q.rest.length < b) (limit : ∀ most ∈ max, most = l.count + f)
    (free : max = none → b ≤ f) :
    ∃ k ≤ b, g.Returns (.loop depth inner min max l) k
      (l.found ++ furtherRounds (g.pathsAt depth inner) f l.frontier) := by
  induction b generalizing l f with
  | zero =>
    have done : l.Over max := .inl (List.eq_nil_iff_forall_not_mem.mpr fun q member =>
      Nat.not_lt_zero _ (short q member))
    exact ⟨0, Nat.le_refl 0, returns_of_over enough limit done _⟩
  | succ b ih =>
    by_cases done : l.Over max
    · exact ⟨0, Nat.zero_le _, returns_of_over enough limit done _⟩
    · obtain ⟨f, rfl⟩ : ∃ m, f = m + 1 := by
        apply Nat.exists_eq_add_one_of_ne_zero
        rintro rfl
        cases max with
        | none => exact absurd (free rfl) (by omega)
        | some most => exact done (.inr ⟨most, rfl, Nat.le_of_eq (limit most rfl)⟩)
      have step : g.Returns (.each depth inner (decide (min ≤ l.count)) l.frontier) 0
          (l.frontier.flatMap (consuming (g.pathsAt depth inner))) := by
        rw [decide_eq_true enough]
        exact follows.each true l.frontier
      have limit' : ∀ most ∈ max, most = l.count + 1 + f := by
        intro most bound
        have := limit most bound
        omega
      obtain ⟨k, few, more⟩ := ih (l := ⟨l.count + 1, _, l.taken min⟩) (Nat.le_succ_of_le enough)
        (length_lt_of_mem_consuming short) limit'
        (fun unbounded => Nat.le_of_succ_le_succ (free unbounded))
      refine ⟨k + 1, Nat.succ_le_succ few, ?_⟩
      rw [furtherRounds_succ, ← List.append_assoc, ← Loop.taken_of_le enough]
      exact .round done step more

theorem Follows.loop_below (follows : g.Follows depth inner) (few : l.count + r = min)
    (short : ∀ q ∈ l.frontier, q.rest.length < b) (limit : ∀ most ∈ max, most = min + f)
    (free : max = none → b ≤ f) :
    ∃ k ≤ r + b, g.Returns (.loop depth inner min max l) k
      (l.found ++ furtherRounds (g.pathsAt depth inner) f
        (rounds (g.pathsAt depth inner) r l.frontier)) := by
  induction r generalizing l with
  | zero =>
    obtain ⟨k, bound, returns⟩ := follows.loop_beyond (Nat.le_of_eq few.symm) short
      (fun most bound => by rw [limit most bound, ← few, Nat.add_zero]) free
    exact ⟨k, by omega, returns⟩
  | succ r ih =>
    have early : l.count < min := by omega
    by_cases none : l.frontier = []
    · refine ⟨0, Nat.zero_le _, ?_⟩
      rw [none, rounds_nil, furtherRounds_nil, List.append_nil, ← Loop.taken_of_lt early]
      exact .stop (.inl none)
    · have goes : ¬ l.Over max := by
        rintro (empty | ⟨most, bound, reached⟩)
        · exact none empty
        · have := limit most bound
          omega
      -- Up to the minimum every round counts, with or without words.
      have step : g.Returns (.each depth inner (decide (min ≤ l.count)) l.frontier) 0
          (l.frontier.flatMap (g.pathsAt depth inner)) := by
        rw [decide_eq_false (Nat.not_le.mpr early)]
        exact follows.each false l.frontier
      have short' : ∀ q ∈ l.frontier.flatMap (g.pathsAt depth inner), q.rest.length < b := by
        intro q member
        obtain ⟨p, earlier, member⟩ := List.mem_flatMap.mp member
        exact Nat.lt_of_le_of_lt (length_le_of_mem_pathsAt member) (short p earlier)
      obtain ⟨k, few, more⟩ := ih (l := ⟨l.count + 1, _, l.taken min⟩) (by simp only; omega) short'
      refine ⟨k + 1, by omega, ?_⟩
      rw [rounds_succ]
      have kept : l.taken min = l.found := Loop.taken_of_lt early
      rw [kept] at more
      exact .round goes step (by rwa [kept])

theorem Follows.loop_short (follows : g.Follows depth inner) {most : Nat} (few : l.count + r = most)
    (less : most < min) :
    ∃ k ≤ r, g.Returns (.loop depth inner min (some most) l) k l.found := by
  have early (l : Loop) (few : l.count ≤ most) : l.taken min = l.found :=
    Loop.taken_of_lt (Nat.lt_of_le_of_lt few less)
  induction r generalizing l with
  | zero =>
    refine ⟨0, Nat.le_refl 0, ?_⟩
    rw [← early l (Nat.le_of_eq few)]
    exact .stop (.inr ⟨most, rfl, Nat.le_of_eq few.symm⟩)
  | succ r ih =>
    have kept := early l (by omega)
    by_cases done : l.Over (some most)
    · refine ⟨0, Nat.zero_le _, ?_⟩
      rw [← kept]
      exact .stop done
    · have step := follows.each (decide (min ≤ l.count)) l.frontier
      obtain ⟨k, bound, more⟩ := ih (l := ⟨l.count + 1, _, l.taken min⟩) (by simp only; omega)
      refine ⟨k + 1, Nat.succ_le_succ bound, ?_⟩
      rw [← kept]
      exact .round done step more

end

theorem length_lt_of_mem_rounds {p q : Path} {k : Nat}
    (member : q ∈ rounds (g.pathsAt depth inner) k [p]) : q.rest.length < p.rest.length + 1 := by
  obtain ⟨ws, _, left, _⟩ := rounds_sound (paths_sound g _ inner) k p q member
  rw [left, List.length_append]
  omega

theorem pathsAt_repetition (p : Path) :
    g.pathsAt depth (.repetition inner min max) p = repeated (g.pathsAt depth inner) min max p := by
  rw [pathsAt, Element.paths]
  rfl

/-- A maximum that leaves room for one round for each word is as good as none. -/
theorem pathsAt_repetition_some {p : Path} {most : Nat} (room : min + p.rest.length ≤ most) :
    g.pathsAt depth (.repetition inner min (some most)) p =
      g.pathsAt depth (.repetition inner min none) p := by
  rw [pathsAt_repetition, pathsAt_repetition, repeated_some (by omega)]
  exact furtherRounds_of_le (fun q member => length_lt_of_mem_rounds member) (by omega)

theorem Follows.repetition (follows : g.Follows depth inner) (min : Nat) (max : Option Nat)
    (p : Path) : ∃ k ≤ min + p.rest.length + 1,
      g.Returns (.element depth (.repetition inner min max) p) k
        (g.pathsAt depth (.repetition inner min max) p) := by
  have short : ∀ q ∈ (Loop.start p).frontier, q.rest.length < p.rest.length + 1 := by
    intro q member
    obtain rfl := List.mem_singleton.mp member
    exact Nat.lt_succ_self _
  have free : ∀ most ∈ (none : Option Nat), most = min + (p.rest.length + 1) := nofun
  cases max with
  | none =>
    obtain ⟨k, bound, returns⟩ := follows.loop_below (Nat.zero_add min) short free
      fun _ => Nat.le_refl _
    rw [pathsAt_repetition, repeated,
      ← furtherRounds_of_le (fun q member => length_lt_of_mem_rounds member) (Nat.le_succ _)]
    exact ⟨k, bound, .repetition returns⟩
  | some most =>
    rw [pathsAt_repetition]
    by_cases less : most < min
    · obtain ⟨k, bound, returns⟩ := follows.loop_short (l := .start p) (Nat.zero_add most) less
      rw [repeated, if_pos less]
      exact ⟨k, by omega, .repetition returns⟩
    · have limit : ∀ m ∈ some most, m = min + (most - min) := by
        intro m same
        obtain rfl := Option.some.inj same
        omega
      obtain ⟨k, bound, returns⟩ := follows.loop_below (Nat.zero_add min) short limit
        fun unbounded => absurd unbounded (Option.some_ne_none most)
      rw [repeated_some (Nat.not_lt.mp less)]
      exact ⟨k, bound, .repetition returns⟩

theorem returns_alternatives {es : List Element} (follows : ∀ e ∈ es, g.Follows depth e)
    (p : Path) :
    g.Returns (.alternatives depth es p) 0
      (Element.pathsOfAny (g.refPaths (maxNesting - depth)) es p) := by
  induction es with
  | nil => exact .noAlternative p
  | cons e es ih =>
    obtain ⟨first, others⟩ := List.forall_mem_cons.mp follows
    obtain ⟨k, returns⟩ := first p
    exact .alternative returns (ih others)

theorem returns_parts {es : List Element} (follows : ∀ e ∈ es, g.Follows depth e)
    (ps : List Path) :
    g.Returns (.parts depth es ps) 0
      (ps.flatMap (Element.pathsOfAll (g.refPaths (maxNesting - depth)) es)) := by
  induction es generalizing ps with
  | nil =>
    have all : ps.flatMap (Element.pathsOfAll (g.refPaths (maxNesting - depth)) []) = ps :=
      List.flatMap_singleton' ps
    rw [all]
    exact .noPart ps
  | cons e es ih =>
    obtain ⟨first, others⟩ := List.forall_mem_cons.mp follows
    have step : g.Returns (.each depth e false ps) 0 (ps.flatMap (g.pathsAt depth e)) :=
      first.each false ps
    have joined : (ps.flatMap (g.pathsAt depth e)).flatMap
        (Element.pathsOfAll (g.refPaths (maxNesting - depth)) es) =
          ps.flatMap (Element.pathsOfAll (g.refPaths (maxNesting - depth)) (e :: es)) :=
      List.flatMap_assoc
    by_cases none : ps.flatMap (g.pathsAt depth e) = []
    · rw [← joined, none, List.flatMap_nil]
      exact .stuck (by rwa [none] at step)
    · rw [← joined]
      exact .part step none (ih others _)

theorem follows_of_rules
    (rules : ∀ id rule, depth < maxNesting → g.rule? id = some rule →
      g.Follows (depth + 1) rule.body)
    (e : Element) : g.Follows depth e := by
  induction e using Element.structural with
  | phrase text => exact fun p => ⟨0, .phrase text p⟩
  | oneOf es ih => exact fun p => ⟨0, .oneOf (returns_alternatives ih p)⟩
  | sequence es ih =>
    intro p
    have all := returns_parts ih [p]
    rw [List.flatMap_singleton] at all
    exact ⟨0, .sequence all⟩
  | ruleRef id =>
    intro p
    by_cases deep : maxNesting ≤ depth
    · have none : g.pathsAt depth (.ruleRef id) p = [] := by
        rw [pathsAt, Nat.sub_eq_zero_of_le deep]
        rfl
      rw [none]
      exact ⟨0, .tooDeep id p deep⟩
    · have shallow := Nat.not_le.mp deep
      have opened : maxNesting - depth = maxNesting - (depth + 1) + 1 := by omega
      rw [pathsAt, Element.paths, opened, refPaths]
      cases known : g.rule? id with
      | none => exact ⟨0, .unknown p known⟩
      | some rule =>
        obtain ⟨k, returns⟩ := rules id rule shallow known p
        exact ⟨0, .ruleRef shallow known returns⟩
  | repetition inner min max ih =>
    intro p
    obtain ⟨k, _, returns⟩ := ih.repetition min max p
    exact ⟨k, returns⟩
  | tag t => exact fun p => ⟨0, .tag t p⟩

theorem follows (g : Grammar) (depth : Nat) (e : Element) : g.Follows depth e := by
  -- On the references that may still be opened, as a body can be larger than the reference to it.
  induction left : maxNesting - depth generalizing depth e with
  | zero => exact follows_of_rules (fun _ _ shallow => by omega) e
  | succ n ih =>
    exact follows_of_rules (fun _ rule _ _ => ih (depth + 1) rule.body (by omega)) e

theorem exists_behind_of_mem_pathsAt {words : List String} {position : Nat}
    (within : position ≤ words.length) {assigned : List (String × String)} {q : Path}
    (member : q ∈ g.pathsAt depth e (.behind words position assigned)) :
    ∃ stop added, position ≤ stop ∧ stop ≤ words.length ∧
      q = .behind words stop (assigned ++ added) := by
  obtain ⟨ws, added, left, entries, _⟩ := paths_sound g _ e _ q member
  have left : words.drop position = ws ++ q.rest := left
  have lengths := congrArg List.length left
  rw [List.length_drop, List.length_append] at lengths
  have rest : words.drop (position + ws.length) = q.rest := by
    rw [← List.drop_drop, left, List.drop_left]
  refine ⟨position + ws.length, added, Nat.le_add_right _ _, by omega, ?_⟩
  show (⟨q.rest, q.assigned⟩ : Path) = ⟨words.drop (position + ws.length), assigned ++ added⟩
  rw [rest, entries]
  rfl

/-- Every search comes to an end, with the paths of its element and no others. A path ends between
its start and the end of the words, and adds to the entries in front of it; a phrase is compared
with words that are there. A repetition makes at most one round for each word behind the minimum and
a last one that finds nothing, whatever its maximum is, so 32 bits suffice to count the rounds
unless the minimum leaves no room; and a maximum that leaves room for all of them is as good as
none. -/
theorem search_ends (g : Grammar) (words : List String) {position : Nat}
    (within : position ≤ words.length) (assigned : List (String × String)) (depth : Nat)
    (e : Element) :
    ∃ rounds,
      g.Returns (.element depth e (.behind words position assigned)) rounds
        (g.pathsAt depth e (.behind words position assigned)) ∧
      (∀ k found, g.Returns (.element depth e (.behind words position assigned)) k found →
        k = rounds ∧ found = g.pathsAt depth e (.behind words position assigned)) ∧
      (∀ q ∈ g.pathsAt depth e (.behind words position assigned),
        ∃ stop added, position ≤ stop ∧ stop ≤ words.length ∧
          q = .behind words stop (assigned ++ added)) ∧
      (∀ text, e = .phrase text →
        g.pathsAt depth e (.behind words position assigned) =
          if position + (Text.words text).length ≤ words.length ∧
              words.extract position (position + (Text.words text).length) = Text.words text then
            [.behind words (position + (Text.words text).length) assigned]
          else []) ∧
      ∀ inner min max, e = .repetition inner min max →
        rounds ≤ min + (words.length - position) + 1 ∧
        (min + (words.length - position) < UInt32.size - 1 → rounds < UInt32.size) ∧
        ∀ most, min + (words.length - position) ≤ most →
          g.pathsAt depth (.repetition inner min (some most)) (.behind words position assigned) =
            g.pathsAt depth (.repetition inner min none) (.behind words position assigned) := by
  have length : (Path.behind words position assigned).rest.length = words.length - position :=
    List.length_drop
  obtain ⟨rounds, returns⟩ := g.follows depth e (.behind words position assigned)
  refine ⟨rounds, returns, ?_, ?_, ?_, ?_⟩
  · intro k found other
    obtain ⟨rfl, rfl⟩ := returns.unique other
    exact ⟨rfl, rfl⟩
  · exact fun q member => exists_behind_of_mem_pathsAt within member
  · rintro text rfl
    exact takeWords_behind within assigned
  · rintro inner min max rfl
    obtain ⟨k, bound, again⟩ :=
      (g.follows depth inner).repetition min max (.behind words position assigned)
    obtain ⟨rfl, _⟩ := returns.unique again
    rw [length] at bound
    refine ⟨bound, ?_, ?_⟩
    · intro small
      exact Nat.lt_of_le_of_lt bound (Nat.add_lt_of_lt_sub small)
    · intro most room
      exact pathsAt_repetition_some (by rwa [length])

theorem search_ends_left_recursive :
    1 ≤ ["one", "two"].length ∧
      ∃ rounds ≤ 4, leftRecursive.Returns
        (.element 0 (.repetition (.oneOf [.sequence [], .ruleRef "list"]) 2 none)
          (.behind ["one", "two"] 1 []))
        rounds
        (leftRecursive.pathsAt 0 (.repetition (.oneOf [.sequence [], .ruleRef "list"]) 2 none)
          (.behind ["one", "two"] 1 [])) := by
  have within : 1 ≤ ["one", "two"].length := by decide
  obtain ⟨rounds, returns, _, _, _, bounds⟩ := search_ends leftRecursive ["one", "two"] within [] 0
    (.repetition (.oneOf [.sequence [], .ruleRef "list"]) 2 none)
  obtain ⟨few, _, _⟩ := bounds _ _ _ rfl
  exact ⟨within, rounds, few, returns⟩

end Grammar

end Callout
