/-
# ArtifactStaging.Logging.Pattern.Reader -- reading a field pattern

A pattern is read from text in which the usual marks of regular expressions have
their usual meaning: `|` between alternatives, `(...)` for groups, which may have
a name or change flags, `[...]` for classes, which may stand in each other and be
combined by `&&`, `--` and `~~`, the repetitions `?`, `*` and `+`, and a backslash
before a mark that stands for itself, a letter with a meaning of its own, or a
character in hexadecimal.

The text comes from a filter, where a field ends at a closing brace.  So nothing
that is written in braces ever ends, and an opening brace outside classes that
is not escaped is refused.

With the flag that ignores blanks, blanks do not count, and a comment runs from a
number sign to the end of its line.
-/
import ArtifactStaging.Logging.Pattern.Form
import ArtifactStaging.Text.Cut
import ArtifactStaging.Text.Letter

set_option autoImplicit false

namespace ArtifactStaging.FieldPattern

/-! ## Blanks -/

/-- The text without blanks and comments in front, within a comment or not. -/
def dropIgnored (inComment : Bool) : List Char → List Char
  | [] => []
  | c :: rest =>
      if inComment then dropIgnored (c != '\n') rest
      else if Text.isBlank c then dropIgnored false rest
      else if c = '#' then dropIgnored true rest
      else c :: rest

/-- The text without what is ignored in front. -/
def skip (ignoring : Bool) (text : List Char) : List Char :=
  if ignoring then dropIgnored false text else text

/-- The character that decides whether a minus sign begins a range: the next one and, if
blanks are ignored, the next that is neither blank nor the first mark of a comment. -/
def afterMinus? (ignoring : Bool) (text : List Char) : Option Char :=
  if ignoring then
    let next := match text.dropWhile Text.isBlank with
      | '#' :: rest => rest.dropWhile Text.isBlank
      | rest => rest
    next.head?.or text.head?
  else text.head?

/-! ## Escapes -/

/-- What stands for itself in a pattern or class. -/
inductive Atom where
  | character (named : Named)
  | anchor
  | wordEdge
  | shorthand (negated : Bool)
deriving DecidableEq, Repr

/-- So many hexadecimal digits after a value. -/
def hexNumber? (ignoring : Bool) : (count value : Nat) → List Char → Option (Nat × List Char)
  | 0, value, text => some (value, text)
  | count + 1, value, text =>
      match skip ignoring text with
      | [] => none
      | c :: rest =>
          match Text.hexValue? c with
          | some digit => hexNumber? ignoring count (value * 16 + digit) rest
          | none => none

/-- A character in so many hexadecimal digits. -/
def hexCharacter? (ignoring : Bool) (count : Nat) (text : List Char) :
    Option (Atom × List Char) := do
  let (n, rest) ← hexNumber? ignoring count 0 text
  if n.isValidChar then some (.character ⟨Char.ofNat n, count == 2⟩, rest) else none

/-- The letters that stand for a control character after a backslash. -/
def controls : List (Char × Char) :=
  [('a', '\x07'), ('f', '\x0c'), ('t', '\t'), ('n', '\n'), ('r', '\r'), ('v', '\x0b')]

/-- Whether a character stands for itself after a backslash. -/
def isEscapable (c : Char) : Bool := isAscii c && !c.isAlphanum && c != '<' && c != '>'

/-- What stands after a backslash. -/
def escape? (ignoring : Bool) : List Char → Option (Atom × List Char)
  | [] => none
  | 'x' :: rest => hexCharacter? ignoring 2 rest
  | 'u' :: rest => hexCharacter? ignoring 4 rest
  | 'U' :: rest => hexCharacter? ignoring 8 rest
  | 'A' :: rest => some (.anchor, rest)
  | 'z' :: rest => some (.anchor, rest)
  | 'b' :: rest => if rest.head? = some '\x7b' then none else some (.wordEdge, rest)
  | c :: rest =>
      if ['B', '<', '>'].contains c then some (.wordEdge, rest)
      else if ['d', 's', 'w'].contains c then some (.shorthand false, rest)
      else if ['D', 'S', 'W'].contains c then some (.shorthand true, rest)
      else if isEscapable c then some (.character ⟨c, false⟩, rest)
      else (controls.lookup c).map fun control => (.character ⟨control, false⟩, rest)

/-! ## Classes -/

/-- The names of the classes of ASCII characters. -/
def asciiClassNames : List String :=
  ["alnum", "alpha", "ascii", "blank", "cntrl", "digit", "graph", "lower", "print", "punct",
    "space", "upper", "word", "xdigit"]

/-- A class of ASCII characters after its opening bracket: whether it is negated. -/
def asciiClass? (text : List Char) : Option (Bool × List Char) :=
  match text with
  | ':' :: rest =>
      let (negated, rest) := match rest with
        | '^' :: rest => (true, rest)
        | rest => (false, rest)
      let name := rest.takeWhile (· != ':')
      match rest.drop name.length with
      | ':' :: ']' :: rest =>
          if asciiClassNames.contains (String.ofList name) then some (negated, rest) else none
      | _ => none
  | _ => none

/-- A character or an escape in a class. -/
def classAtom? (ignoring : Bool) : List Char → Option (Atom × List Char)
  | [] => none
  | '\\' :: rest => escape? ignoring rest
  | c :: rest => some (.character ⟨c, false⟩, rest)

/-- An item of a class, or a range. -/
def classItem? (ignoring : Bool) (text : List Char) : Option (ClassForm × List Char) := do
  let (first, rest) ← classAtom? ignoring text
  let single : Option ClassForm := match first with
    | .character named => some (.character named)
    | .shorthand negated => some (.shorthand negated)
    | .anchor => none
    | .wordEdge => none
  match skip ignoring rest with
  | [] => none
  | '-' :: rest =>
      let next := afterMinus? ignoring rest
      if next = some ']' ∨ next = some '-' then some (← single, '-' :: rest)
      else
        let (last, rest) ← classAtom? ignoring (skip ignoring rest)
        match first, last with
        | .character first, .character last =>
            if first.value ≤ last.value then some (.range first last, rest) else none
        | _, _ => none
  | rest => some (← single, rest)

/-- The items of a class, given latest first, as one class. -/
def unite : List ClassForm → ClassForm
  | [] => .nothing
  | [item] => item
  | items => .union items.reverse

/-- A class after what it is combined with, if that is anything. -/
def combine (left : Option ClassForm) (right : ClassForm) : ClassForm :=
  match left with
  | some left => .combined left right
  | none => right

/-- The minus signs at the start of a class stand for themselves: them, latest first, and
what is left. -/
def leadingMinuses (ignoring : Bool) (items : List ClassForm) : (fuel : Nat) → List Char →
    List ClassForm × List Char
  | 0, text => (items, text)
  | fuel + 1, text =>
      match skip ignoring text with
      | '-' :: rest => leadingMinuses ignoring (.character ⟨'-', false⟩ :: items) fuel rest
      | text => (items, text)

/-- The start of a class after its opening bracket: whether it is negated, its first items,
latest first, and what is left.  A closing bracket that comes first stands for itself. -/
def openClass (ignoring : Bool) (text : List Char) : Bool × List ClassForm × List Char :=
  let (negated, rest) := match skip ignoring text with
    | '^' :: rest => (true, rest)
    | text => (false, text)
  match leadingMinuses ignoring [] (rest.length + 1) rest with
  | ([], ']' :: rest) => (negated, [.character ⟨']', false⟩], rest)
  | (items, rest) => (negated, items, rest)

/-- The rest of a class up to and with its closing bracket, after the class it is combined
with and its items so far, latest first. -/
def classRest? (ignoring : Bool) : (fuel : Nat) → (left : Option ClassForm) →
    (items : List ClassForm) → List Char → Option (ClassForm × List Char)
  | 0, _, _, _ => none
  | fuel + 1, left, items, text =>
      match skip ignoring text with
      | [] => none
      | ']' :: rest => some (combine left (unite items), rest)
      | '&' :: '&' :: rest =>
          classRest? ignoring fuel (some (combine left (unite items))) [] rest
      | '-' :: '-' :: rest =>
          classRest? ignoring fuel (some (combine left (unite items))) [] rest
      | '~' :: '~' :: rest =>
          classRest? ignoring fuel (some (combine left (unite items))) [] rest
      | '[' :: rest =>
          match asciiClass? rest with
          | some (negated, rest) =>
              classRest? ignoring fuel left (.asciiClass negated :: items) rest
          | none => do
              let (negated, first, rest) := openClass ignoring rest
              let (inner, rest) ← classRest? ignoring fuel none first rest
              classRest? ignoring fuel left (.bracketed negated inner :: items) rest
      | text => do
          let (item, rest) ← classItem? ignoring text
          classRest? ignoring fuel left (item :: items) rest

/-- A class after its opening bracket. -/
def bracket? (ignoring : Bool) (text : List Char) : Option (PatternForm × List Char) := do
  let (negated, first, rest) := openClass ignoring text
  let (inner, rest) ← classRest? ignoring (text.length + 1) none first rest
  some (.bracketed negated inner, rest)

/-! ## Groups -/

/-- Whether a character may stand in the name of a group. -/
def isNameChar (c : Char) : Bool :=
  c == '_' || c == '.' || c == '[' || c == ']' || Text.isLetterOrNumber c

/-- The name of a group, up to and with the bracket that closes it. -/
def groupName? (text : List Char) : Option (String × List Char) :=
  let name := text.takeWhile (· != '>')
  match name, text.drop name.length with
  | first :: others, '>' :: rest =>
      if (first == '_' || Text.isLetter first) && others.all isNameChar then
        some (String.ofList name, rest)
      else none
  | _, _ => none

/-- The flags after a question mark, up to and with the mark that ends them, which is
answered too.  A flag is named once, and so is the minus sign, which does not come last. -/
def flags? (seen : FlagChange) (negated dangling : Bool) :
    List Char → Option (FlagChange × Char × List Char)
  | [] => none
  | c :: rest =>
      if c = ':' ∨ c = ')' then if dangling then none else some (seen.reverse, c, rest)
      else if c = '-' then if negated then none else flags? seen true true rest
      else
        match Flag.all.find? (·.letter == c) with
        | some flag =>
            if seen.any (·.1 == flag) then none
            else flags? ((flag, !negated) :: seen) negated false rest
        | none => none

/-- What an opening parenthesis begins. -/
inductive Opening where
  | flags (change : FlagChange)
  | group (name : Option String) (change : FlagChange)

/-- What an opening parenthesis begins. -/
def opening? (ignoring : Bool) (text : List Char) : Option (Opening × List Char) :=
  match skip ignoring text with
  | '?' :: 'P' :: '<' :: rest => named rest
  | '?' :: '<' :: rest => named rest
  | '?' :: rest =>
      match flags? [] false false rest with
      | some (change, ':', rest) => some (.group none change, rest)
      | some (change, _, rest) => if change.isEmpty then none else some (.flags change, rest)
      | none => none
  | rest => some (.group none [], rest)
where
  /-- A group whose name is still to be read. -/
  named (text : List Char) : Option (Opening × List Char) :=
    (groupName? text).map fun (name, rest) => (.group (some name) [], rest)

/-! ## Patterns -/

/-- Items in a row, given latest first. -/
def inRow : List PatternForm → PatternForm
  | [] => .nothing
  | [item] => item
  | items => .sequence items.reverse

/-- Alternatives, given latest first. -/
def oneOf : List PatternForm → PatternForm
  | [branch] => branch
  | branches => .alternatives branches.reverse

/-- An atom as a pattern. -/
def ofAtom : Atom → PatternForm
  | .character named => .character named
  | .anchor => .anchor
  | .wordEdge => .wordEdge
  | .shorthand negated => .shorthand negated

/-- Whether a pattern can be repeated: a change of flags cannot. -/
def isRepeatable : PatternForm → Bool
  | .nothing => false
  | .flags _ => false
  | _ => true

/-- A repetition of the last item, after its mark; a question mark makes it lazy. -/
def repeatLast? (items : List PatternForm) (text : List Char) :
    Option (List PatternForm × List Char) :=
  match items with
  | last :: before =>
      if isRepeatable last then
        some (.repeated last :: before, match text with
          | '?' :: rest => rest
          | text => text)
      else none
  | [] => none

/-- The rest of a pattern up to its end or to a parenthesis that closes, after the branches
that are complete and the items of the current one, both latest first. -/
def patternRest? : (fuel : Nat) → (ignoring : Bool) → (branches items : List PatternForm) →
    List Char → Option (PatternForm × List Char)
  | 0, _, _, _, _ => none
  | fuel + 1, ignoring, branches, items, text =>
      match skip ignoring text with
      | [] => some (oneOf (inRow items :: branches), [])
      | ')' :: rest => some (oneOf (inRow items :: branches), ')' :: rest)
      | '|' :: rest => patternRest? fuel ignoring (inRow items :: branches) [] rest
      | '(' :: rest =>
          match opening? ignoring rest with
          | none => none
          | some (.flags change, rest) =>
              patternRest? fuel (change.apply .ignoreBlanks ignoring) branches
                (.flags change :: items) rest
          | some (.group name change, rest) =>
              match patternRest? fuel (change.apply .ignoreBlanks ignoring) [] [] rest with
              | some (inner, ')' :: rest) =>
                  patternRest? fuel ignoring branches (.group name change inner :: items) rest
              | _ => none
      | '[' :: rest => do
          let (bracket, rest) ← bracket? ignoring rest
          patternRest? fuel ignoring branches (bracket :: items) rest
      | '\x7b' :: _ => none
      | '\\' :: rest => do
          let (atom, rest) ← escape? ignoring rest
          patternRest? fuel ignoring branches (ofAtom atom :: items) rest
      | c :: rest =>
          if c = '?' ∨ c = '*' ∨ c = '+' then do
            let (items, rest) ← repeatLast? items rest
            patternRest? fuel ignoring branches items rest
          else if c = '.' then patternRest? fuel ignoring branches (.anyCharacter :: items) rest
          else if c = '^' ∨ c = '$' then
            patternRest? fuel ignoring branches (.anchor :: items) rest
          else patternRest? fuel ignoring branches (.character ⟨c, false⟩ :: items) rest

/-- Read a pattern. -/
def parse? (text : List Char) : Option PatternForm :=
  match patternRest? (text.length + 1) false [] [] text with
  | some (form, []) => some form
  | _ => none

/-- Whether a text is a pattern that can be used. -/
def isPattern (text : List Char) : Bool := (parse? text).any PatternForm.isUsable

end ArtifactStaging.FieldPattern
