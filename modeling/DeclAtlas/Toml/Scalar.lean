import DeclAtlas.Toml.Basic

/-!
# TOML words

Truth values, numbers, dates and times are words without quotes.  Integers have 64 bits, and a
decimal number may not be too large for double precision.
-/

namespace DeclAtlas.Toml

/-! ## Digits -/

/-- Whether the text is one or more digits. -/
def isDigits (t : Text) : Bool :=
  !t.isEmpty && t.all Char.isDigit

/-- The number that decimal digits write. -/
def decimal (digits : Text) : Nat :=
  digits.foldl (fun n c => 10 * n + (c.toNat - '0'.toNat)) 0

/-- The digits of a text in which single underscores may stand between digits. -/
def grouped? (isDigit : Char → Bool) (t : Text) : Option Text :=
  let groups := Text.splitAtChar '_' t
  if groups.all fun group => !group.isEmpty && group.all isDigit then some groups.flatten else none

/-- The digits of a whole number in decimal, which has no zero in front. -/
def whole? (t : Text) : Option Text := do
  let digits ← grouped? Char.isDigit t
  if digits.head? = some '0' ∧ digits ≠ ['0'] then none else some digits

/-- Splits a sign off a word: whether it is a minus, and the rest. -/
def splitSign : Text → Bool × Text
  | '+' :: t => (false, t)
  | '-' :: t => (true, t)
  | t => (false, t)

/-! ## Integers -/

/-- The digit value in a base up to sixteen; characters that are no digits count as sixteen. -/
def digitValue (c : Char) : Nat :=
  if c.isDigit then c.toNat - '0'.toNat
  else if 'a' ≤ c ∧ c ≤ 'f' then c.toNat - 'a'.toNat + 10
  else if 'A' ≤ c ∧ c ≤ 'F' then c.toNat - 'A'.toNat + 10
  else 16

/-- The least number that is too large for an integer of 64 bits with a sign. -/
def integerBound : Nat :=
  1 <<< 63

/-- Whether the text writes an integer of at most 63 bits in a base. -/
def isInBase (base : Nat) (t : Text) : Bool :=
  (grouped? (fun c => digitValue c < base) t).any fun digits =>
    digits.foldl (fun n c => base * n + digitValue c) 0 < integerBound

/-- Whether the word is an integer. -/
def isInteger (word : Text) : Bool :=
  match word with
  | '0' :: 'x' :: t => isInBase 16 t
  | '0' :: 'o' :: t => isInBase 8 t
  | '0' :: 'b' :: t => isInBase 2 t
  | _ =>
    let (negative, t) := splitSign word
    (whole? t).any fun digits =>
      if negative then decimal digits ≤ integerBound else decimal digits < integerBound

/-! ## Decimal numbers -/

/-- The least number that rounds to infinity in double precision. -/
def infinityBound : Nat :=
  (1 <<< 1024) - (1 <<< 970)

/-- Whether `digits · 10 ^ exponent` is below the numbers that round to infinity in double
precision.  The exponent is `up - down`. -/
def isFinite (digits : Text) (up down : Nat) : Bool :=
  let digits := digits.dropWhile (· == '0')
  if digits.isEmpty || digits.length + up ≤ down + 300 then true
  else if down + 310 ≤ digits.length + up then false
  else decimal digits * Nat.pow 10 (up - down) < infinityBound * Nat.pow 10 (down - up)

/-- Cuts a word at the letter in front of its exponent. -/
def splitExponent (t : Text) : Text × Option Text :=
  match Text.cutWhere? (fun c => c == 'e' || c == 'E') t with
  | none => (t, none)
  | some (front, exponent) => (front, some exponent)

/-- The digits and the sign of an exponent. -/
def exponent? (t : Text) : Option (Bool × Nat) := do
  let (negative, t) := splitSign t
  let digits ← grouped? Char.isDigit t
  some (negative, decimal digits)

/-- Whether the word is a decimal number with a fraction or an exponent. -/
def isFloat (word : Text) : Bool :=
  let (negative, t) := splitSign word
  if t = "inf".toList ∨ t = "nan".toList then true
  else
    let (front, exponent) := splitExponent t
    let (integral, fraction) :=
      match Text.cutAt? '.' front with
      | none => (front, none)
      | some (integral, fraction) => (integral, some fraction)
    let fractionDigits :=
      match fraction with
      | none => some []
      | some fraction => grouped? Char.isDigit fraction
    let power :=
      match exponent with
      | none => some (false, 0)
      | some exponent => exponent? exponent
    match whole? integral, fractionDigits, power with
    | some digits, some places, some (below, amount) =>
      let up := if below then 0 else amount
      let down := (if below then amount else 0) + places.length
      (fraction.isSome || exponent.isSome) && (negative || isFinite (digits ++ places) up down)
    | _, _, _ => false

/-! ## Dates and times -/

/-- The number of days of a month. -/
def daysIn (year month : Nat) : Nat :=
  if month = 2 then
    if year % 4 = 0 ∧ (year % 100 ≠ 0 ∨ year % 400 = 0) then 29 else 28
  else if month = 4 ∨ month = 6 ∨ month = 9 ∨ month = 11 then 30
  else 31

/-- The number that exactly `count` digits write. -/
def fixed? (count : Nat) (t : Text) : Option Nat :=
  if t.length = count ∧ isDigits t then some (decimal t) else none

/-- Whether the text is a date. -/
def isDate (t : Text) : Bool :=
  match Text.splitAtChar '-' t with
  | [year, month, day] =>
    match fixed? 4 year, fixed? 2 month, fixed? 2 day with
    | some year, some month, some day =>
      1 ≤ month && month ≤ 12 && 1 ≤ day && day ≤ daysIn year month
    | _, _, _ => false
  | _ => false

/-- Whether the text is an hour and a minute. -/
def isClock (hour minute : Text) : Bool :=
  (fixed? 2 hour).any (· ≤ 23) && (fixed? 2 minute).any (· ≤ 59)

/-- Whether the text is a number of seconds, with a fraction or without. -/
def isSeconds (t : Text) : Bool :=
  match Text.cutAt? '.' t with
  | none => (fixed? 2 t).any (· ≤ 60)
  | some (seconds, fraction) => (fixed? 2 seconds).any (· ≤ 60) && isDigits fraction

/-- Whether the text is a time of day. -/
def isTime (t : Text) : Bool :=
  match Text.splitAtChar ':' t with
  | [hour, minute, second] => isClock hour minute && isSeconds second
  | _ => false

/-- Whether the text is an offset from universal time, without its sign. -/
def isOffset (t : Text) : Bool :=
  match Text.splitAtChar ':' t with
  | [hour, minute] => isClock hour minute
  | _ => false

/-- Whether the text is a time of day, with an offset or without. -/
def isTimeWithOffset (t : Text) : Bool :=
  match t.reverse with
  | 'Z' :: reversed | 'z' :: reversed => isTime reversed.reverse
  | _ =>
    match Text.cutWhere? (fun c => c == '+' || c == '-') t with
    | none => isTime t
    | some (time, offset) => isTime time && isOffset offset

/-- Whether the word is a date, a time or both in one word. -/
def isMoment (word : Text) : Bool :=
  isDate word || isTime word ||
    (isDate (word.take 10) &&
      match word.drop 10 with
      | 'T' :: time | 't' :: time => isTimeWithOffset time
      | _ => false)

/-! ## Words -/

/-- The characters of words without quotes. -/
def isWordChar (c : Char) : Bool :=
  c.isAlphanum || c == '_' || c == '+' || c == '-' || c == '.' || c == ':'

/-- The value that a word stands for. -/
def ofWord? (word : Text) : Option Toml :=
  if word = "true".toList then some (.boolean true)
  else if word = "false".toList then some (.boolean false)
  else if isMoment word then some .moment
  else if isInteger word || isFloat word then some .number
  else none

/-- Reads a value without quotes, and gives what follows it.  A date and a time may have a space
between them. -/
def readWord? (t : Text) : Option (Toml × Text) :=
  let word := t.takeWhile isWordChar
  let rest := t.dropWhile isWordChar
  let joined :=
    match rest with
    | ' ' :: more =>
      if isDate word && isTimeWithOffset (more.takeWhile isWordChar) then
        some (Toml.moment, more.dropWhile isWordChar)
      else none
    | _ => none
  joined.or ((ofWord? word).map fun value => (value, rest))

end DeclAtlas.Toml
