/-
# ArtifactStaging.Logging.Pattern.Form -- the form of a field pattern

A filter may compare a field with a regular expression.  A `PatternForm` keeps
as much of one as its being usable depends on: how it is built, which flags it
sets where, and what each class is made of.

A pattern is matched by a table over bytes that knows nothing of Unicode but the
UTF-8 form of a character, and what it matches is UTF-8 throughout.  So there are
two modes, and `isUsable` says what each of them has to refuse.

* With characters, which is the mode a pattern starts in: the shorthand classes,
  the edges of words, and ignoring case wherever a character is named.
* With bytes: any byte, a byte beyond ASCII, a class that names a character beyond
  ASCII, and every negated class.

A form is at most `depthBound` levels deep, and no two groups have the same name.
-/

set_option autoImplicit false

namespace ArtifactStaging.FieldPattern

/-! ## Flags -/

/-- A flag of a pattern. -/
inductive Flag where
  | ignoreCase
  | multiLine
  | dotAll
  | swapGreed
  | characters
  | carriageReturns
  | ignoreBlanks
deriving DecidableEq, Repr

/-- The letter of a flag. -/
def Flag.letter : Flag → Char
  | .ignoreCase => 'i'
  | .multiLine => 'm'
  | .dotAll => 's'
  | .swapGreed => 'U'
  | .characters => 'u'
  | .carriageReturns => 'R'
  | .ignoreBlanks => 'x'

/-- Every flag. -/
def Flag.all : List Flag :=
  [.ignoreCase, .multiLine, .dotAll, .swapGreed, .characters, .carriageReturns, .ignoreBlanks]

/-- The flags that are set or taken back at one place. -/
abbrev FlagChange := List (Flag × Bool)

/-- A flag after a change. -/
def FlagChange.apply (change : FlagChange) (flag : Flag) (before : Bool) : Bool :=
  (change.lookup flag).getD before

/-- The flags that decide what is refused. -/
structure Mode where
  characters : Bool
  ignoreCase : Bool
deriving DecidableEq, Repr

namespace Mode

/-- The mode a pattern starts in. -/
def initial : Mode := ⟨true, false⟩

/-- The mode after a change of flags. -/
def change (mode : Mode) (flags : FlagChange) : Mode :=
  ⟨flags.apply .characters mode.characters, flags.apply .ignoreCase mode.ignoreCase⟩

end Mode

/-! ## Forms -/

/-- A character of a pattern. -/
structure Named where
  value : Char
  /-- It is given as a byte by two hexadecimal digits. -/
  byByte : Bool
deriving DecidableEq, Repr

/-- What stands between the brackets of a class. -/
inductive ClassForm where
  | nothing
  | character (named : Named)
  | range (first last : Named)
  /-- A class of ASCII characters by its name. -/
  | asciiClass (negated : Bool)
  /-- A class by a letter: digits, blanks or characters of words. -/
  | shorthand (negated : Bool)
  | bracketed (negated : Bool) (inner : ClassForm)
  | union (items : List ClassForm)
  /-- An intersection or a difference. -/
  | combined (left right : ClassForm)

/-- A pattern. -/
inductive PatternForm where
  | nothing
  /-- A change of flags up to the end of the group around it. -/
  | flags (change : FlagChange)
  | character (named : Named)
  | anyCharacter
  /-- The start or end of a line or of the text. -/
  | anchor
  /-- The edge of a word, or a place that is none. -/
  | wordEdge
  | shorthand (negated : Bool)
  | bracketed (negated : Bool) (inner : ClassForm)
  | group (name : Option String) (change : FlagChange) (inner : PatternForm)
  | repeated (inner : PatternForm)
  | sequence (items : List PatternForm)
  | alternatives (items : List PatternForm)

/-- How many levels deep a pattern may be. -/
def depthBound : Nat := 250

/-- Whether a code point is ASCII. -/
def isAscii (c : Char) : Bool := c.toNat < 128

/-! ## Classes -/

mutual

/-- How many levels deep a class is. -/
def ClassForm.depth : ClassForm → Nat
  | .nothing => 0
  | .character _ => 0
  | .range _ _ => 0
  | .asciiClass _ => 0
  | .shorthand _ => 0
  | .bracketed _ inner => inner.depth + 1
  | .union items => classDepth items + 1
  | .combined left right => max left.depth right.depth + 1

/-- How many levels deep the deepest of some classes is. -/
def classDepth : List ClassForm → Nat
  | [] => 0
  | item :: rest => max item.depth (classDepth rest)

end

mutual

/-- Whether a class can be used in a mode. -/
def ClassForm.isUsable (mode : Mode) : ClassForm → Bool
  | .nothing => true
  | .character named => if mode.characters then !mode.ignoreCase else isAscii named.value
  | .range first last =>
      if mode.characters then !mode.ignoreCase else isAscii first.value && isAscii last.value
  | .asciiClass negated => if mode.characters then !mode.ignoreCase else !negated
  | .shorthand negated => !mode.characters && !negated
  | .bracketed negated inner => inner.isUsable mode && (mode.characters || !negated)
  | .union items => classesUsable mode items
  | .combined left right => left.isUsable mode && right.isUsable mode

/-- Whether all of some classes can be used in a mode. -/
def classesUsable (mode : Mode) : List ClassForm → Bool
  | [] => true
  | item :: rest => item.isUsable mode && classesUsable mode rest

end

/-! ## Patterns -/

mutual

/-- How many levels deep a pattern is. -/
def PatternForm.depth : PatternForm → Nat
  | .nothing => 0
  | .flags _ => 0
  | .character _ => 0
  | .anyCharacter => 0
  | .anchor => 0
  | .wordEdge => 0
  | .shorthand _ => 0
  | .bracketed _ inner => inner.depth + 1
  | .group _ _ inner => inner.depth + 1
  | .repeated inner => inner.depth + 1
  | .sequence items => patternDepth items + 1
  | .alternatives items => patternDepth items + 1

/-- How many levels deep the deepest of some patterns is. -/
def patternDepth : List PatternForm → Nat
  | [] => 0
  | item :: rest => max item.depth (patternDepth rest)

end

mutual

/-- The names of the groups. -/
def PatternForm.names : PatternForm → List String
  | .group name _ inner => name.toList ++ inner.names
  | .repeated inner => inner.names
  | .sequence items => namesOf items
  | .alternatives items => namesOf items
  | _ => []

/-- The names of the groups of some patterns. -/
def namesOf : List PatternForm → List String
  | [] => []
  | item :: rest => item.names ++ namesOf rest

end

mutual

/-- The mode after a pattern that starts in a mode; none if the pattern has to be refused.
Flags last to the end of the group around them, past the bars between alternatives. -/
def PatternForm.modeAfter (mode : Mode) : PatternForm → Option Mode
  | .nothing => some mode
  | .flags change => some (mode.change change)
  | .character named =>
      let usable :=
        if mode.characters then !mode.ignoreCase else !named.byByte || isAscii named.value
      if usable then some mode else none
  | .anyCharacter => if mode.characters then some mode else none
  | .anchor => some mode
  | .wordEdge => if mode.characters then none else some mode
  | .shorthand negated => if mode.characters || negated then none else some mode
  | .bracketed negated inner =>
      if (ClassForm.bracketed negated inner).isUsable mode then some mode else none
  | .group _ change inner => (inner.modeAfter (mode.change change)).map fun _ => mode
  | .repeated inner => inner.modeAfter mode
  | .sequence items => modeAfterAll mode items
  | .alternatives items => modeAfterAll mode items

/-- The mode after some patterns, one after the other. -/
def modeAfterAll (mode : Mode) : List PatternForm → Option Mode
  | [] => some mode
  | item :: rest =>
      match item.modeAfter mode with
      | some mode => modeAfterAll mode rest
      | none => none

end

/-- Whether no name comes twice. -/
def distinct : List String → Bool
  | [] => true
  | name :: rest => !rest.contains name && distinct rest

/-- Whether a pattern can be used. -/
def PatternForm.isUsable (form : PatternForm) : Bool :=
  form.depth ≤ depthBound && distinct form.names && (form.modeAfter .initial).isSome

end ArtifactStaging.FieldPattern
