namespace Callout

structure InputConfig where
  -- The pause after each key, in milliseconds.
  keyPressDelay : Nat := 50
  preferBackend : String := "auto"
  deriving DecidableEq, Repr

structure GrammarConfig where
  culture : String := "en-US"
  maxSubjects : Nat := 10
  deriving DecidableEq, Repr

structure RecognitionConfig where
  startListening : Bool := true
  deriving DecidableEq, Repr

structure Config where
  input : InputConfig := {}
  grammar : GrammarConfig := {}
  recognition : RecognitionConfig := {}
  deriving DecidableEq, Repr

end Callout
