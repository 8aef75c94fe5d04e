import Callout.Log
import Callout.Session.Basic
import Callout.Text.Quoted

namespace Callout

def fieldOrNone : Option String → String
  | some text => "Some(" ++ text ++ ")"
  | none => "None"

def Order.dispatchLine? (o : Order) : Option LogLine :=
  o.command.map fun command =>
    let subjects := o.subjects.map fun l => "[" ++ ", ".intercalate (l.map Text.quoted) ++ "]"
    .info .application ("Dispatching " ++ command ++ " (subjects: " ++ fieldOrNone subjects
      ++ ", direct object: " ++ fieldOrNone (o.directObject.map Text.quoted) ++ ")")

def Session.report (s : Session) (e : RecognitionEvent) : List LogLine :=
  match s.read e with
  | .order result => if s.state.listening then result.order.dispatchLine?.toList else []
  | .rejection text => [.info .application ("No command matched '" ++ text ++ "'")]
  | .listening on =>
    [.info .application ("Listening " ++ if on then "enabled" else "disabled")]

def Injector.report? (inj : Injector) (a : Attempt) : Option LogLine :=
  match a.reply.fault? with
  | none => (inj.describe a.call).map (.info .input)
  | some fault =>
    some (.warn .input ("Key sequence aborted: " ++ (Error.injection fault).message))

end Callout
