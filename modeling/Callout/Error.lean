namespace Callout

inductive InjectionFault where
  | refused (message : String)
  | crashed (message : String)
  deriving DecidableEq, Repr

inductive Error where
  | duplicateCommand (id : String)
  | duplicateTag (slot tag : String)
  | duplicatePhrase (slot phrase : String)
  | duplicateRule (id : String)
  | unknownTag (slot tag : String)
  | injection (fault : InjectionFault)
  | emulatorClosed
  deriving DecidableEq, Repr

def InjectionFault.message : InjectionFault → String
  | refused message | crashed message => message

namespace Error

def message : Error → String
  | duplicateCommand id => "Command '" ++ id ++ "' is already registered"
  | duplicateTag slot tag => "Tag '" ++ tag ++ "' is already defined in slot '" ++ slot ++ "'"
  | duplicatePhrase slot phrase =>
    "Phrase '" ++ phrase ++ "' is already used in slot '" ++ slot ++ "'"
  | duplicateRule id => "Grammar rule '" ++ id ++ "' is defined twice"
  | unknownTag slot tag => "Slot '" ++ slot ++ "' has no entry tagged '" ++ tag ++ "'"
  | injection fault => "Key injection failed: " ++ fault.message
  | emulatorClosed => "Key emulator is not running"

def isAssembly : Error → Bool
  | duplicateCommand _ | duplicateTag _ _ | duplicatePhrase _ _ | duplicateRule _ => true
  | unknownTag _ _ | injection _ | emulatorClosed => false

end Error

end Callout
