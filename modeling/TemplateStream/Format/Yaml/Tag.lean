import TemplateStream.Format.Yaml.Cursor

/-!
# Tags of plain scalars

The form of a plain scalar decides what it is: a truth value, a number, nothing, a date, the mark
of a merge or the mark of a value. Any other plain scalar is text. A form is tried only for the
first characters that it can begin with, so a truth value never begins with a digit.
-/

namespace TemplateStream.Format.Yaml

/-- What a node is. -/
inductive Tag where
  | null
  | bool
  | int
  | float
  | text
  | binary
  | timestamp
  | sequence
  | mapping
  | orderedMapping
  | pairs
  | set
  /-- The key that merges other mappings into one. -/
  | merge
  /-- The key of the value that stands for a mapping where a scalar is needed. -/
  | value
  /-- A tag that nothing is known of. -/
  | unknown
  deriving DecidableEq

namespace Tag

/-- What the tags of the standard begin with. -/
def standardStart : String := "tag:yaml.org,2002:"

/-- The names of tags behind their common beginning. -/
def names : List (String × Tag) := [
  ("null", .null), ("bool", .bool), ("int", .int), ("float", .float), ("str", .text),
  ("binary", .binary), ("timestamp", .timestamp), ("seq", .sequence), ("map", .mapping),
  ("omap", .orderedMapping), ("pairs", .pairs), ("set", .set), ("merge", .merge),
  ("value", .value)]

/-- The tag of a full name. -/
def ofName (name : String) : Tag :=
  ((names.find? fun entry => standardStart ++ entry.1 == name).map Prod.snd).getD .unknown

/-- Words for truth values, in lower case. -/
def truths : List (String × Bool) := [
  ("yes", true), ("no", false), ("true", true), ("false", false), ("on", true), ("off", false)]

/-- Whether a text is a word in lower case, in upper case, or with a capital. -/
def isSpelling (word text : String) : Bool :=
  text == word || text == word.toUpper || text == word.capitalize

/-- Whether a text is a word for a truth value. -/
def isTruth (text : String) : Bool := truths.any fun entry => isSpelling entry.1 text

/-- Whether a text is a word for nothing. -/
def isNull (text : String) : Bool := text.isEmpty || text == "~" || isSpelling "null" text

/-- A list of characters less a sign at its front. -/
def dropSign : List Char → List Char
  | '+' :: rest => rest
  | '-' :: rest => rest
  | chars => chars

/-- Whether a character is a digit or an underscore. -/
def isGrouped (c : Char) : Bool := isDigit c || c == '_'

/-- What follows a digit and further digits and underscores. -/
def afterDigits? : List Char → Option (List Char)
  | c :: rest => if isDigit c then some (rest.dropWhile isGrouped) else none
  | [] => none

/-- What follows groups of one or two digits up to fifty-nine, each after a colon. -/
def afterSixties : List Char → List Char
  | ':' :: a :: b :: rest =>
    if '0' ≤ a && a ≤ '5' && isDigit b then afterSixties rest
    else if isDigit a then afterSixties (b :: rest)
    else ':' :: a :: b :: rest
  | [':', a] => if isDigit a then [] else [':', a]
  | rest => rest

/-- Whether a list of characters is empty or an exponent with a sign. -/
def isExponentOrEmpty : List Char → Bool
  | [] => true
  | mark :: sign :: digits =>
    (mark == 'e' || mark == 'E') && (sign == '+' || sign == '-') && !digits.isEmpty &&
      digits.all isDigit
  | _ => false

/-- Whether a list of characters is a fraction with an optional exponent. -/
def isFraction : List Char → Bool
  | '.' :: rest => isExponentOrEmpty (rest.dropWhile isGrouped)
  | _ => false

/-- Whether a list of characters is a number with a fraction. -/
def isDecimalFraction (chars : List Char) : Bool :=
  match chars with
  | '.' :: c :: rest => isDigit c && isExponentOrEmpty (rest.dropWhile isGrouped)
  | chars => (afterDigits? (dropSign chars)).any isFraction

/-- Whether a list of characters is a number in base sixty with a fraction. -/
def isSixtiesFraction (chars : List Char) : Bool :=
  match afterDigits? (dropSign chars) with
  | none => false
  | some rest =>
    let after := afterSixties rest
    after.length < rest.length &&
      match after with
      | '.' :: fraction => fraction.all isGrouped
      | _ => false

/-- Whether a text is a floating-point number. -/
def isFloat (text : String) : Bool :=
  let chars := text.toList
  let named (words : List String) (chars : List Char) : Bool :=
    words.contains (String.ofList chars)
  isDecimalFraction chars || isSixtiesFraction chars ||
    named [".inf", ".Inf", ".INF"] (dropSign chars) ||
    named [".nan", ".NaN", ".NAN"] chars

/-- Whether a list of characters is not empty and its characters satisfy a test. -/
def allSome (test : Char → Bool) (chars : List Char) : Bool :=
  !chars.isEmpty && chars.all test

/-- Whether a text is an integer. -/
def isInt (text : String) : Bool :=
  match dropSign text.toList with
  | ['0'] => true
  | '0' :: 'b' :: rest => allSome (fun c => c == '0' || c == '1' || c == '_') rest
  | '0' :: 'x' :: rest => allSome (fun c => isHexDigit c || c == '_') rest
  | '0' :: rest => allSome (fun c => ('0' ≤ c && c ≤ '7') || c == '_') rest
  | c :: rest =>
    isDigit c && (afterSixties (rest.dropWhile isGrouped)).isEmpty
  | [] => false

/-- Whether a list of characters begins with exactly so many digits, and what follows them. -/
def afterCount? (counts : List Nat) (chars : List Char) : Option (List Char) :=
  let digits := chars.takeWhile isDigit
  if counts.contains digits.length then some (chars.drop digits.length) else none

/-- What follows a character at the front. -/
def after? (c : Char) : List Char → Option (List Char)
  | d :: rest => if c == d then some rest else none
  | [] => none

/-- What follows the separator of a date and a time: a letter, or blanks. -/
def afterDateSeparator? : List Char → Option (List Char)
  | c :: rest =>
    if c == 'T' || c == 't' then some rest
    else if isSpace c then some (rest.dropWhile isSpace)
    else none
  | [] => none

/-- Whether a list of characters is a distance from universal time, behind blanks, or empty. -/
def isZoneOrEmpty (chars : List Char) : Bool :=
  chars.isEmpty ||
    match chars.dropWhile isSpace with
    | ['Z'] => true
    | c :: rest =>
      (c == '+' || c == '-') &&
        match afterCount? [1, 2] rest with
        | some [] => true
        | some (':' :: minutes) => afterCount? [2] minutes == some []
        | _ => false
    | [] => false

/-- Whether a text is a date, or a date with a time. -/
def isTimestamp (text : String) : Bool :=
  let chars := text.toList
  let isDate : Option Unit := do
    let rest ← afterCount? [2] (← after? '-' (← afterCount? [4] chars))
    let rest ← afterCount? [2] (← after? '-' rest)
    if rest.isEmpty then some () else none
  let isMoment : Option Unit := do
    let rest ← afterCount? [1, 2] (← after? '-' (← afterCount? [4] chars))
    let rest ← afterDateSeparator? (← afterCount? [1, 2] (← after? '-' rest))
    let rest ← afterCount? [2] (← after? ':' (← afterCount? [1, 2] rest))
    let rest ← afterCount? [2] (← after? ':' rest)
    let rest := match rest with
      | '.' :: fraction => fraction.dropWhile isDigit
      | rest => rest
    if isZoneOrEmpty rest then some () else none
  isDate.isSome || isMoment.isSome

/-- The tag of a plain scalar. -/
def ofPlain (text : String) : Tag :=
  if isTruth text then .bool
  else if isFloat text then .float
  else if isInt text then .int
  else if text == "<<" then .merge
  else if isNull text then .null
  else if isTimestamp text then .timestamp
  else if text == "=" then .value
  else if text == "!" || text == "&" || text == "*" then .unknown
  else .text

end Tag

end TemplateStream.Format.Yaml
