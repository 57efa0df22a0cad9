/-! What makes a request fail. -/
namespace PasteRules

/-- The causes of failure. -/
inductive Fault where
  /-- No entity has the identifier. -/
  | unrecognisedId (id : String)
  /-- The flags of a pattern ask for two alphabets. -/
  | alphabetsContradict
  /-- A repetition count of a pattern has too many digits. -/
  | countHasTooManyDigits
  /-- An integer of a saved file has too many digits. -/
  | integerHasTooManyDigits
  /-- A file name holds a null character. -/
  | nullInFileName
  /-- The option for a file name was left without one. -/
  | noFileName
  /-- A value that should hold entries cannot hold any. -/
  | notIterable
  /-- A value that should have a length has none. -/
  | noLength
  /-- A value that should have named fields is of another kind. -/
  | notARecord
  /-- A whole configuration is no object. -/
  | notAnObject
  /-- A value that identifies something is a list or an object. -/
  | notAnIdentity
  /-- A position in a list is no integer. -/
  | notAPosition
  /-- A field or an entry is missing. -/
  | missingEntry
  deriving DecidableEq, Repr

/-- The message for an identifier that no entity has. -/
def unrecognisedIdMessage (id : String) : String := "unrecognised id \x60" ++ id ++ "\x60"

end PasteRules
