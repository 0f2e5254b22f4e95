/-
# ArtifactStaging.DistBundle.Glob -- globs over bytes

A glob is text in which `?` stands for any one byte, `*` for any bytes, a class in
square brackets for one of its bytes, and alternatives in curly brackets, parted
by commas, for one of them.  A backslash takes away the meaning of the character
after it; in a class it is a character like any other.  All other characters
stand for themselves, and outside alternatives so does the comma.

A class is a set of bytes: a character beyond ASCII adds each byte of its UTF-8
form, and a range runs from the last byte of its first character to the first
byte of its last.  The bracket right after the opening one belongs to the class.

`parse` reads a glob, `accepts` matches a text with it from end to end, and
`escape` writes a text so that, backslashes apart, it stands for itself.
-/
import ArtifactStaging.Text.Cut

set_option autoImplicit false

namespace ArtifactStaging

/-- Why a text is no glob. -/
inductive GlobFault where
  | unclosedClass
  | emptyRange (first last : Char)
  | unopenedAlternatives
  | unclosedAlternatives
  | danglingBackslash
deriving DecidableEq, Repr

namespace GlobFault

/-- What is wrong with the glob. -/
def reason : GlobFault → String
  | .unclosedClass => "unclosed character class; missing ']'"
  | .emptyRange first last =>
      "invalid range; '" ++ first.toString ++ "' > '" ++ last.toString ++ "'"
  | .unopenedAlternatives =>
      "unopened alternate group; missing '\x7b' (maybe escape '\x7d' with '[\x7d]'?)"
  | .unclosedAlternatives =>
      "unclosed alternate group; missing '\x7d' (maybe escape '\x7b' with '[\x7b]'?)"
  | .danglingBackslash => "dangling '\\'"

/-- The text of the fault of a glob. -/
def message (glob : String) (fault : GlobFault) : String :=
  "error parsing glob '" ++ glob ++ "': " ++ fault.reason

end GlobFault

namespace Glob

/-- A part of a glob. -/
inductive Token where
  | literal (c : Char)
  | anyByte
  | anyBytes
  | oneOf (negated : Bool) (ranges : List (Char × Char))
  | alternatives (branches : List (List Token))

/-! ## Writing -/

/-- The characters that have a meaning of their own; the backslash is not among them. -/
def isSpecial (c : Char) : Bool :=
  c == '?' || c == '*' || c == '[' || c == ']' || c == '\x7b' || c == '\x7d'

/-- A text with every special character in a class of its own. -/
def escape (text : List Char) : List Char :=
  text.flatMap fun c => if isSpecial c then ['[', c, ']'] else [c]

/-! ## Reading -/

/-- A class that is being read; its ranges stand latest first. -/
structure OpenClass where
  /-- Nothing but the bracket was read. -/
  fresh : Bool
  negated : Bool
  ranges : List (Char × Char)
  /-- A minus sign waits for the end of a range. -/
  inRange : Bool

/-- What is being read. -/
inductive Mode where
  | plain
  | escaped
  | inClass (bracket : OpenClass)

/-- Alternatives that are being read: the tokens before them and the branches that are
complete, both latest first. -/
structure OpenAlternatives where
  before : List Token
  branches : List (List Token)

/-- A glob that is being read; tokens stand latest first, and so do open alternatives. -/
structure Draft where
  mode : Mode
  tokens : List Token
  enclosing : List OpenAlternatives

/-- Nothing read. -/
def Draft.blank : Draft := ⟨.plain, [], []⟩

/-- One more token. -/
def Draft.push (draft : Draft) (token : Token) : Draft :=
  { draft with mode := .plain, tokens := token :: draft.tokens }

/-- A character outside classes. -/
def Draft.plainStep (draft : Draft) (c : Char) : Except GlobFault Draft :=
  match c with
  | '?' => .ok (draft.push .anyByte)
  | '*' => .ok (draft.push .anyBytes)
  | '\\' => .ok { draft with mode := .escaped }
  | '[' => .ok { draft with mode := .inClass ⟨true, false, [], false⟩ }
  | '\x7b' =>
      .ok { draft with tokens := [], enclosing := ⟨draft.tokens, []⟩ :: draft.enclosing }
  | '\x7d' =>
      match draft.enclosing with
      | [] => .error .unopenedAlternatives
      | group :: enclosing =>
          let branches := (draft.tokens.reverse :: group.branches).reverse
          .ok { draft with tokens := .alternatives branches :: group.before, enclosing }
  | ',' =>
      match draft.enclosing with
      | [] => .ok (draft.push (.literal ','))
      | group :: enclosing =>
          let group := { group with branches := draft.tokens.reverse :: group.branches }
          .ok { draft with tokens := [], enclosing := group :: enclosing }
  | c => .ok (draft.push (.literal c))

/-- One more character in a class: the end of a range that is open, or a range of its own. -/
def OpenClass.add (c : Char) (bracket : OpenClass) : Except GlobFault OpenClass :=
  match bracket.inRange, bracket.ranges with
  | true, (first, _) :: ranges =>
      if c < first then .error (.emptyRange first c)
      else .ok ⟨false, bracket.negated, (first, c) :: ranges, false⟩
  | _, ranges => .ok ⟨false, bracket.negated, (c, c) :: ranges, false⟩

/-- The class as a token; a minus sign at its end stands for itself. -/
def OpenClass.close (bracket : OpenClass) : Token :=
  let ranges := if bracket.inRange then ('-', '-') :: bracket.ranges else bracket.ranges
  .oneOf bracket.negated ranges.reverse

/-- A character in a class. -/
def Draft.classStep (draft : Draft) (bracket : OpenClass) (c : Char) : Except GlobFault Draft :=
  let goOn (bracket : OpenClass) : Draft := { draft with mode := .inClass bracket }
  let first := bracket.ranges.isEmpty
  if bracket.fresh && (c == '!' || c == '^') then
    .ok (goOn { bracket with fresh := false, negated := true })
  else if c == ']' && !first then .ok (draft.push bracket.close)
  else if c == '-' && !first && !bracket.inRange then .ok (goOn { bracket with inRange := true })
  else (bracket.add c).map goOn

/-- One more character. -/
def Draft.step (draft : Draft) (c : Char) : Except GlobFault Draft :=
  match draft.mode with
  | .plain => draft.plainStep c
  | .escaped => .ok (draft.push (.literal c))
  | .inClass bracket => draft.classStep bracket c

/-- The glob, if nothing is open. -/
def Draft.finish (draft : Draft) : Except GlobFault (List Token) :=
  match draft.mode, draft.enclosing with
  | .inClass _, _ => .error .unclosedClass
  | .escaped, _ => .error .danglingBackslash
  | .plain, _ :: _ => .error .unclosedAlternatives
  | .plain, [] => .ok draft.tokens.reverse

/-- Read a glob. -/
def parse (text : List Char) : Except GlobFault (List Token) := do
  (← text.foldlM Draft.step Draft.blank).finish

/-! ## Matching -/

/-- The bytes of a character. -/
def bytesOf (c : Char) : List UInt8 := String.utf8EncodeChar c

/-- Whether a range of a class holds a byte. -/
def rangeHolds (byte : UInt8) (first last : Char) : Bool :=
  if first = last then (bytesOf first).contains byte
  else
    (bytesOf first).dropLast.contains byte ||
      ((bytesOf first).getLast?.any (· ≤ byte) && (bytesOf last).head?.any (byte ≤ ·)) ||
      (bytesOf last).tail.contains byte

/-- Any bytes, then what `rest` accepts. -/
def skipAny (rest : List UInt8 → Bool) : List UInt8 → Bool
  | [] => rest []
  | byte :: bytes => rest (byte :: bytes) || skipAny rest bytes

/-- These bytes, then what `rest` accepts. -/
def skipBytes (rest : List UInt8 → Bool) : List UInt8 → List UInt8 → Bool
  | [], bytes => rest bytes
  | _ :: _, [] => false
  | a :: expected, b :: bytes => a == b && skipBytes rest expected bytes

mutual

/-- Whether a token accepts nothing but the empty text, for want of branches. -/
def isVoid : Token → Bool
  | .alternatives branches => allVoid branches
  | .literal _ => false
  | .anyByte => false
  | .anyBytes => false
  | .oneOf _ _ => false

/-- Whether every token of a branch is void. -/
def branchVoid : List Token → Bool
  | [] => true
  | token :: rest => isVoid token && branchVoid rest

/-- Whether every branch is void. -/
def allVoid : List (List Token) → Bool
  | [] => true
  | branch :: rest => branchVoid branch && allVoid rest

end

mutual

/-- Whether a token accepts the start of some bytes, and `rest` what is left. -/
def acceptToken (rest : List UInt8 → Bool) : Token → List UInt8 → Bool
  | .literal c, bytes => skipBytes rest (bytesOf c) bytes
  | .anyByte, bytes =>
      match bytes with
      | [] => false
      | _ :: bytes => rest bytes
  | .anyBytes, bytes => skipAny rest bytes
  | .oneOf negated ranges, bytes =>
      match bytes with
      | [] => false
      | byte :: bytes =>
          ((ranges.any fun (first, last) => rangeHolds byte first last) != negated) && rest bytes
  | .alternatives branches, bytes =>
      if allVoid branches then rest bytes else acceptBranch rest branches bytes

/-- Whether tokens accept the start of some bytes, and `rest` what is left. -/
def acceptTokens (rest : List UInt8 → Bool) : List Token → List UInt8 → Bool
  | [], bytes => rest bytes
  | token :: tokens, bytes => acceptToken (acceptTokens rest tokens) token bytes

/-- Whether one of the branches does; a void branch does not count. -/
def acceptBranch (rest : List UInt8 → Bool) : List (List Token) → List UInt8 → Bool
  | [], _ => false
  | branch :: branches, bytes =>
      (!branchVoid branch && acceptTokens rest branch bytes) || acceptBranch rest branches bytes

end

/-- Whether a glob accepts a text from end to end. -/
def accepts (glob : List Token) (text : String) : Bool :=
  acceptTokens List.isEmpty glob (text.toList.flatMap bytesOf)

end Glob

end ArtifactStaging
