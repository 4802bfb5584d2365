/-! Why a YAML text has no data. -/
namespace DesignTokens.Yaml

inductive Failure where
  | malformed
  /-- An escape for a number that no character has. -/
  | noSuchCharacter
  /-- An escape for a number that needs more than 31 bits. -/
  | characterTooLarge
  /-- A scalar with the type of truth values that is no word for one. -/
  | notTruth
  /-- A scalar with the type of a number and without any digits or words. -/
  | emptyNumber
  | notNumber
  /-- Too many parts of sixty for a floating-point number. -/
  | numberTooLarge
  | notTimestamp
  /-- A timestamp that is given by a mapping. -/
  | timestampInMapping
  /-- A timestamp with a day, a time or an offset that does not exist. -/
  | noSuchTime
  /-- A mapping that gives itself as its scalar. -/
  | endless
deriving DecidableEq

end DesignTokens.Yaml
