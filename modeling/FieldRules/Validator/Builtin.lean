import FieldRules.Validator.Number
import FieldRules.Validator.Time
import FieldRules.Validator.Web

/-!
The validators that are there from the start.
-/

namespace FieldRules.Validator

/-- No more items than the attribute `max`. -/
def arrayLengthMax : Validator := fun v attributes => do
  match v with
  | .array items =>
    let max ← attributes.count "max"
    require (items.length ≤ max) s!"array length can not be greater than {max}"
  | v => throw ("only arrays are allowed, found " ++ v.kind.name)

/-- No fewer items than the attribute `min`. -/
def arrayLengthMin : Validator := fun v attributes => do
  match v with
  | .array items =>
    let min ← attributes.count "min"
    require (min ≤ items.length) s!"array length can not be less than {min}"
  | v => throw ("only arrays are allowed, found " ++ v.kind.name)

/-- The validators by name; those that compare with the present take it to be `now`. -/
def builtin (now : Calendar.Instant) : Registry Validator := .ofList [
  ("IsString", isString),
  ("NotEmpty", notEmpty),
  ("StringInArr", stringInArr),
  ("LIKE", like),
  ("IsEmail", isEmail),
  ("MaxLengthAllowed", maxLengthAllowed),
  ("MinLengthAllowed", minLengthAllowed),
  ("InBetweenLengthAllowed", inBetweenLengthAllowed),
  ("NoSpecialCharacters", noSpecialCharacters),
  ("HaveSpecialCharacters", haveSpecialCharacters),
  ("LeastOneUpperCase", leastOneUpperCase),
  ("LeastOneLowerCase", leastOneLowerCase),
  ("LeastOneDigit", leastOneDigit),
  ("IsValidUuid", isValidUuid),
  ("Regex", regex),
  ("IsURL", isUrl),
  ("IsNotURL", isNotUrl),
  ("HaveURLHostName", haveUrlHostName),
  ("HaveQueryParameter", haveQueryParameter),
  ("IsHttps", isHttps),
  ("IsNumber", isNumber),
  ("IsInt", isInt),
  ("MaxAllowed", maxAllowed),
  ("MinAllowed", minAllowed),
  ("InBetween", inBetween),
  ("IsValidDate", isValidDate),
  ("IsLessThanNow", isLessThanNow now),
  ("IsMoreThanNow", isMoreThanNow now),
  ("IsBefore", isBefore),
  ("IsAfter", isAfter),
  ("IsInBetweenTime", isInBetweenTime),
  ("ArrayLengthMax", arrayLengthMax),
  ("ArrayLengthMin", arrayLengthMin)]

end FieldRules.Validator
