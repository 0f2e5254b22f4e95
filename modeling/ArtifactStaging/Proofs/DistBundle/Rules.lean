/-
# ArtifactStaging.Proofs.DistBundle.Rules -- what the rule of the distribution bundle accepts

A rule is meant literally: a name is that of the bundle exactly when it starts with
the one text of the rule and ends with the other, where the two may overlap.  The rule
is matched as two globs of escaped text, so this has to survive escaping, reading and
matching.

Escaped text is read back as one token for each character, and that token accepts the
bytes of its character and nothing else; so a run of them takes a text off the front of
a name (`acceptTokens_verbatim`), and with the star behind or before it what is left is
a question about the ends of the bytes, which are the ends of the text.

Escaping leaves the backslash alone, and read as a glob it takes away the meaning of the
character after it.  `unmarked?` is the text of a rule without such backslashes, as long
as each stands before a character that has no meaning to lose; that text, and not the
rule's own, is what names are compared with (`accepts_iff_unmarked`).  Where there is no
backslash the two are one (`unmarked?_eq_self`).

Of every rule, whatever backslashes it has, two things can be said.  Reading never takes back a
token that stands outside all alternatives (`outer_foldlM`), so what a glob begins with shows in
all that it accepts.  And a rule that accepts the empty name accepts every name
(`accepts_of_accepts_empty`): a token that can do without bytes can do with any.
-/
import ArtifactStaging.DistBundle.Pattern
import ArtifactStaging.Proofs.Result
import ArtifactStaging.Proofs.Text.Utf8Ends

set_option autoImplicit false

namespace ArtifactStaging

open Text (utf8Bytes)

namespace Glob

/-! ## Reading escaped text -/

/-- How an escaped character is read. -/
def verbatim (c : Char) : Token := if isSpecial c then .oneOf false [(c, c)] else .literal c

/-- The text without its backslashes and with what follows each, if none of them stands last
or before a character that is escaped. -/
def unmarked? : List Char → Option (List Char)
  | [] => some []
  | ['\\'] => none
  | '\\' :: c :: text => if isSpecial c then none else (unmarked? text).map (c :: ·)
  | c :: text => (unmarked? text).map (c :: ·)

theorem unmarked?_cons {c : Char} (hc : c ≠ '\\') (text : List Char) :
    unmarked? (c :: text) = (unmarked? text).map (c :: ·) := by
  rw [unmarked?]
  · exact fun h _ => hc h
  · exact fun _ _ h _ => hc h

theorem unmarked?_eq_self {text : List Char} (h : '\\' ∉ text) : unmarked? text = some text := by
  induction text with
  | nil => rfl
  | cons c text ih =>
      rw [List.mem_cons, not_or] at h
      rw [unmarked?_cons (Ne.symm h.1), ih h.2, Option.map_some]

/-- A draft outside classes and alternatives. -/
def Draft.outside (tokens : List Token) : Draft := ⟨.plain, tokens, []⟩

theorem escape_append (s t : List Char) : escape (s ++ t) = escape s ++ escape t := by
  simp [escape]

theorem escape_cons (c : Char) (text : List Char) :
    escape (c :: text) = escape [c] ++ escape text :=
  escape_append [c] text

theorem escape_singleton {c : Char} (h : isSpecial c = false) : escape [c] = [c] := by
  simp [escape, h]

/-- An escaped character is read as itself. -/
theorem foldlM_escape_singleton {c : Char} (hc : c ≠ '\\') (tokens : List Token) :
    (escape [c]).foldlM Draft.step (Draft.outside tokens) =
      .ok (Draft.outside (verbatim c :: tokens)) := by
  by_cases h : isSpecial c = true
  · have hcases := h
    simp only [isSpecial, Bool.or_eq_true, beq_iff_eq] at hcases
    obtain ((((rfl | rfl) | rfl) | rfl) | rfl) | rfl := hcases <;> rfl
  · rw [Bool.not_eq_true] at h
    rw [escape_singleton h, verbatim, h]
    simp only [isSpecial, Bool.or_eq_false_iff, beq_eq_false_iff_ne] at h
    obtain ⟨⟨⟨⟨⟨hquery, hstar⟩, hopen⟩, hclose⟩, hbrace⟩, hend⟩ := h
    simp only [List.foldlM_cons, List.foldlM_nil, Draft.step, Draft.outside]
    rw [Draft.plainStep.eq_def]
    split <;> first | contradiction | rfl

/-- Behind a backslash a character is read as itself, whatever it means elsewhere. -/
theorem foldlM_backslash (c : Char) (rest : List Char) (tokens : List Token) :
    ('\\' :: c :: rest).foldlM Draft.step (Draft.outside tokens) =
      rest.foldlM Draft.step (Draft.outside (.literal c :: tokens)) := rfl

/-- Escaped text is read as what it is without its backslashes, character by character. -/
theorem foldlM_escape {text plain : List Char} (h : unmarked? text = some plain)
    (rest : List Char) (tokens : List Token) :
    (escape text ++ rest).foldlM Draft.step (Draft.outside tokens) =
      rest.foldlM Draft.step (Draft.outside ((plain.map verbatim).reverse ++ tokens)) := by
  induction text using unmarked?.induct generalizing plain tokens with
  | case1 =>
      cases h
      rfl
  | case2 => simp [unmarked?] at h
  | case3 c text hc => simp [unmarked?, hc] at h
  | case4 c text hc ih =>
      rw [unmarked?, if_neg hc] at h
      rw [Bool.not_eq_true] at hc
      obtain ⟨plain, hplain, rfl⟩ := Option.map_eq_some_iff.1 h
      have hspelled : escape ('\\' :: c :: text) = '\\' :: c :: escape text := by
        rw [escape_cons, escape_cons c, escape_singleton hc]
        rfl
      rw [hspelled, List.cons_append, List.cons_append, foldlM_backslash, ih hplain]
      simp [verbatim, hc]
  | case5 c text hlast hmark ih =>
      have hc : c ≠ '\\' := by
        rintro rfl
        cases text with
        | nil => exact hlast rfl rfl
        | cons d text => exact hmark d text rfl rfl
      rw [unmarked?_cons hc] at h
      obtain ⟨plain, hplain, rfl⟩ := Option.map_eq_some_iff.1 h
      rw [escape_cons, List.append_assoc, List.foldlM_append, foldlM_escape_singleton hc,
        Except.ok_bind, ih hplain]
      simp

/-- The tokens outside all alternatives, latest first: where some are open, those before the
outermost. -/
def outerTokens : List Token → List OpenAlternatives → List Token
  | tokens, [] => tokens
  | _, group :: enclosing => outerTokens group.before enclosing

def Draft.outer (draft : Draft) : List Token := outerTokens draft.tokens draft.enclosing

theorem outerTokens_cons (token : Token) (tokens : List Token) (enclosing : List OpenAlternatives) :
    outerTokens tokens enclosing <:+ outerTokens (token :: tokens) enclosing := by
  cases enclosing with
  | nil => exact List.suffix_cons token tokens
  | cons group enclosing => exact List.suffix_rfl

theorem outer_push (draft : Draft) (token : Token) : draft.outer <:+ (draft.push token).outer :=
  outerTokens_cons token draft.tokens draft.enclosing

theorem outer_plainStep {draft next : Draft} {c : Char} (h : draft.plainStep c = .ok next) :
    draft.outer <:+ next.outer := by
  rw [Draft.plainStep.eq_def] at h
  split at h
  case h_1 | h_2 | h_8 =>
    cases h
    exact outer_push _ _
  case h_3 | h_4 | h_5 =>
    cases h
    exact List.suffix_rfl
  case h_6 =>
    split at h
    case h_1 => cases h
    case h_2 group enclosing henclosing =>
      cases h
      rw [Draft.outer, henclosing]
      exact outerTokens_cons _ group.before enclosing
  case h_7 =>
    split at h
    case h_1 =>
      cases h
      exact outer_push _ _
    case h_2 group enclosing henclosing =>
      cases h
      rw [Draft.outer, henclosing]
      exact List.suffix_rfl

theorem outer_classStep {draft next : Draft} {bracket : OpenClass} {c : Char}
    (h : draft.classStep bracket c = .ok next) : draft.outer <:+ next.outer := by
  unfold Draft.classStep at h
  dsimp only at h
  split at h
  · cases h; exact List.suffix_rfl
  · split at h
    · cases h; exact outer_push _ _
    · split at h
      · cases h; exact List.suffix_rfl
      · obtain ⟨bracket, -, rfl⟩ := Except.map_ok_iff.1 h
        exact List.suffix_rfl

/-- A character never takes back an outer token. -/
theorem outer_step {draft next : Draft} {c : Char} (h : draft.step c = .ok next) :
    draft.outer <:+ next.outer := by
  unfold Draft.step at h
  split at h
  · exact outer_plainStep h
  · cases h; exact outer_push _ _
  · exact outer_classStep h

theorem outer_foldlM {text : List Char} {draft last : Draft}
    (h : text.foldlM Draft.step draft = .ok last) : draft.outer <:+ last.outer := by
  induction text generalizing draft with
  | nil =>
      cases h
      exact List.suffix_rfl
  | cons c text ih =>
      rw [List.foldlM_cons] at h
      obtain ⟨next, hstep, hrest⟩ := Except.bind_ok_iff.1 h
      exact (outer_step hstep).trans (ih hrest)

theorem finish_ok_iff {draft : Draft} {tokens : List Token} :
    draft.finish = .ok tokens ↔
      draft.mode = .plain ∧ draft.enclosing = [] ∧ tokens = draft.tokens.reverse := by
  obtain ⟨mode, drafted, enclosing⟩ := draft
  cases mode <;> cases enclosing <;> simp [Draft.finish, eq_comm]

theorem finish_outside (tokens : List Token) :
    (Draft.outside tokens).finish = .ok tokens.reverse := rfl

/-- A glob that begins with what makes some tokens begins with the tokens. -/
theorem prefix_of_parse {front back : List Char} {read tokens : List Token}
    (hfront : ∀ rest : List Char, (front ++ rest).foldlM Draft.step Draft.blank =
      rest.foldlM Draft.step (Draft.outside read.reverse))
    (h : parse (front ++ back) = .ok tokens) : read <+: tokens := by
  rw [parse, hfront] at h
  obtain ⟨last, hlast, hfinish⟩ := Except.bind_ok_iff.1 h
  obtain ⟨-, houtside, rfl⟩ := finish_ok_iff.1 hfinish
  have houter := outer_foldlM hlast
  rw [Draft.outer, Draft.outer, houtside] at houter
  change read.reverse <:+ last.tokens at houter
  simpa using List.reverse_prefix.2 houter

/-! ## Matching -/

theorem skipBytes_eq_true {rest : List UInt8 → Bool} {expected bytes : List UInt8} :
    skipBytes rest expected bytes = true ↔ ∃ tail, bytes = expected ++ tail ∧ rest tail = true := by
  fun_induction skipBytes rest expected bytes with
  | case1 bytes => simp
  | case2 a expected => simp
  | case3 a expected b bytes ih =>
      rw [Bool.and_eq_true, beq_iff_eq, ih]
      constructor
      · rintro ⟨rfl, tail, rfl, htail⟩
        exact ⟨tail, rfl, htail⟩
      · rintro ⟨tail, heq, htail⟩
        obtain ⟨rfl, rfl⟩ := List.cons.inj heq
        exact ⟨rfl, tail, rfl, htail⟩

theorem skipAny_eq_true {rest : List UInt8 → Bool} {bytes : List UInt8} :
    skipAny rest bytes = true ↔ ∃ tail, tail <:+ bytes ∧ rest tail = true := by
  fun_induction skipAny rest bytes with
  | case1 => simp
  | case2 byte bytes ih =>
      rw [Bool.or_eq_true, ih]
      constructor
      · rintro (hrest | ⟨tail, hsuffix, htail⟩)
        · exact ⟨_, List.suffix_rfl, hrest⟩
        · exact ⟨tail, hsuffix.trans (List.suffix_cons byte bytes), htail⟩
      · rintro ⟨tail, hsuffix, htail⟩
        rcases List.suffix_cons_iff.1 hsuffix with rfl | hsuffix
        · exact .inl htail
        · exact .inr ⟨tail, hsuffix, htail⟩

/-- A character that is escaped has one byte, so its class holds just that byte. -/
theorem bytesOf_of_isSpecial {c : Char} (h : isSpecial c = true) : ∃ byte, bytesOf c = [byte] := by
  simp only [isSpecial, Bool.or_eq_true, beq_iff_eq] at h
  obtain ((((rfl | rfl) | rfl) | rfl) | rfl) | rfl := h <;> exact ⟨_, rfl⟩

/-- The token of an escaped character accepts the bytes of the character. -/
theorem acceptToken_verbatim (rest : List UInt8 → Bool) (c : Char) (bytes : List UInt8) :
    acceptToken rest (verbatim c) bytes = skipBytes rest (bytesOf c) bytes := by
  by_cases h : isSpecial c = true
  · obtain ⟨byte, hbyte⟩ := bytesOf_of_isSpecial h
    rw [verbatim, if_pos h, hbyte]
    cases bytes with
    | nil => simp [acceptToken, skipBytes]
    | cons first bytes =>
        simp [acceptToken, skipBytes, rangeHolds, hbyte, beq_eq_decide, eq_comm]
  · rw [verbatim, if_neg h, acceptToken]

/-- The tokens of an escaped text take its bytes off the front. -/
theorem acceptTokens_verbatim (rest : List UInt8 → Bool) (text : List Char) (tokens : List Token)
    (bytes : List UInt8) :
    acceptTokens rest (text.map verbatim ++ tokens) bytes = true ↔
      ∃ tail, bytes = utf8Bytes text ++ tail ∧ acceptTokens rest tokens tail = true := by
  induction text generalizing bytes with
  | nil => simp [utf8Bytes]
  | cons c text ih =>
      rw [List.map_cons, List.cons_append, acceptTokens, acceptToken_verbatim, skipBytes_eq_true,
        Text.utf8Bytes_cons]
      constructor
      · rintro ⟨tail, rfl, htail⟩
        obtain ⟨tail, rfl, hrest⟩ := (ih tail).1 htail
        exact ⟨tail, (List.append_assoc _ _ _).symm, hrest⟩
      · rintro ⟨tail, rfl, hrest⟩
        exact ⟨_, List.append_assoc _ _ _, (ih _).2 ⟨tail, rfl, hrest⟩⟩

/-- A star at the end accepts whatever is left. -/
theorem acceptTokens_star (bytes : List UInt8) :
    acceptTokens List.isEmpty [.anyBytes] bytes = true := by
  rw [acceptTokens, acceptToken, skipAny_eq_true]
  exact ⟨[], List.nil_suffix, rfl⟩

/-- A text and a star accept what starts with the text. -/
theorem accepts_lead_iff {plain : List Char} {name : String} :
    accepts (plain.map verbatim ++ [.anyBytes]) name = true ↔ plain <+: name.toList := by
  rw [accepts, acceptTokens_verbatim, ← Text.utf8Bytes_isPrefix_iff]
  constructor
  · rintro ⟨tail, htail, -⟩
    exact ⟨tail, htail.symm⟩
  · rintro ⟨tail, htail⟩
    exact ⟨tail, htail.symm, acceptTokens_star tail⟩

/-- A star and a text accept what ends with the text. -/
theorem accepts_extension_iff {plain : List Char} {name : String} :
    accepts (.anyBytes :: plain.map verbatim) name = true ↔ plain <:+ name.toList := by
  have whole (tail : List UInt8) :
      acceptTokens List.isEmpty (plain.map verbatim) tail = true ↔ tail = utf8Bytes plain := by
    have h := acceptTokens_verbatim List.isEmpty plain [] tail
    rw [List.append_nil] at h
    simp [h, acceptTokens]
  rw [accepts, acceptTokens, acceptToken, skipAny_eq_true, ← Text.utf8Bytes_isSuffix_iff]
  simp only [whole, exists_eq_right]
  rfl

/-- A text and one more character that stands for itself begin whatever is accepted. -/
theorem prefix_of_accepts {plain : List Char} {c : Char} {tokens : List Token} {name : String}
    (h : accepts (plain.map verbatim ++ .literal c :: tokens) name = true) :
    plain ++ [c] <+: name.toList := by
  obtain ⟨tail, hname, htail⟩ := (acceptTokens_verbatim _ plain _ _).1 h
  rw [acceptTokens, acceptToken, skipBytes_eq_true] at htail
  obtain ⟨rest, rfl, -⟩ := htail
  rw [← Text.utf8Bytes_isPrefix_iff, Text.utf8Bytes_append, Text.utf8Bytes_cons]
  refine ⟨rest, ?_⟩
  rw [List.append_assoc]
  exact (congrArg _ (by simp [utf8Bytes, bytesOf])).trans hname.symm

/-! ## The empty name -/

/-- What accepts no bytes leaves them to `rest`, and accepts all bytes if `rest` does. -/
def Yields (rest accept : List UInt8 → Bool) : Prop :=
  accept [] = true → rest [] = true ∧ ((∀ bytes, rest bytes = true) → ∀ bytes, accept bytes = true)

theorem Yields.trans {first second third : List UInt8 → Bool} (h : Yields first second)
    (h' : Yields second third) : Yields first third := by
  intro hempty
  obtain ⟨hsecond, hthird⟩ := h' hempty
  obtain ⟨hfirst, hall⟩ := h hsecond
  exact ⟨hfirst, fun every => hthird (hall every)⟩

mutual

theorem yields_acceptToken (rest : List UInt8 → Bool) :
    (token : Token) → Yields rest (acceptToken rest token)
  | .literal c => by
      intro hempty
      rw [acceptToken, skipBytes_eq_true] at hempty
      obtain ⟨tail, hnil, -⟩ := hempty
      exact absurd (List.append_eq_nil_iff.1 hnil.symm).1 String.utf8EncodeChar_ne_nil
  | .anyByte => fun hempty => by simp [acceptToken] at hempty
  | .oneOf negated ranges => fun hempty => by simp [acceptToken] at hempty
  | .anyBytes => by
      intro hempty
      refine ⟨by simpa [acceptToken, skipAny] using hempty, fun every bytes => ?_⟩
      rw [acceptToken, skipAny_eq_true]
      exact ⟨bytes, List.suffix_rfl, every bytes⟩
  | .alternatives branches => by
      by_cases hvoid : allVoid branches = true
      · intro hempty
        rw [acceptToken, if_pos hvoid] at hempty
        exact ⟨hempty, fun every bytes => by rw [acceptToken, if_pos hvoid, every]⟩
      · have hsame : acceptToken rest (.alternatives branches) = acceptBranch rest branches := by
          funext bytes
          rw [acceptToken, if_neg hvoid]
        rw [hsame]
        exact yields_acceptBranch rest branches

theorem yields_acceptTokens (rest : List UInt8 → Bool) :
    (tokens : List Token) → Yields rest (acceptTokens rest tokens)
  | [] => fun hempty => ⟨hempty, fun every => every⟩
  | token :: tokens =>
      (yields_acceptTokens rest tokens).trans
        (yields_acceptToken (acceptTokens rest tokens) token)

theorem yields_acceptBranch (rest : List UInt8 → Bool) :
    (branches : List (List Token)) → Yields rest (acceptBranch rest branches)
  | [] => fun hempty => by simp [acceptBranch] at hempty
  | branch :: branches => by
      intro hempty
      rw [acceptBranch, Bool.or_eq_true, Bool.and_eq_true] at hempty
      rcases hempty with ⟨hbranch, hempty⟩ | hempty
      · obtain ⟨hrest, hall⟩ := yields_acceptTokens rest branch hempty
        refine ⟨hrest, fun every bytes => ?_⟩
        rw [acceptBranch, hbranch, hall every, Bool.true_and, Bool.true_or]
      · obtain ⟨hrest, hall⟩ := yields_acceptBranch rest branches hempty
        refine ⟨hrest, fun every bytes => ?_⟩
        rw [acceptBranch, hall every, Bool.or_true]

end

theorem acceptTokens_append (rest : List UInt8 → Bool) (front back : List Token) :
    acceptTokens rest (front ++ back) = acceptTokens (acceptTokens rest back) front := by
  induction front with
  | nil => rfl
  | cons token front ih =>
      funext bytes
      rw [List.cons_append, acceptTokens, acceptTokens, ih]

/-- What ends with a star is read with one behind it, or behind a backslash as a character. -/
theorem exists_of_parse_star {text : List Char} {tokens : List Token}
    (h : parse (text ++ ['*']) = .ok tokens) :
    ∃ front, tokens = front ++ [.anyBytes] ∨ tokens = front ++ [.literal '*'] := by
  rw [parse, List.foldlM_append, bind_assoc] at h
  obtain ⟨⟨mode, drafted, enclosing⟩, -, h⟩ := Except.bind_ok_iff.1 h
  obtain ⟨last, hstep, hfinish⟩ := Except.bind_ok_iff.1 h
  obtain ⟨hmode, -, rfl⟩ := finish_ok_iff.1 hfinish
  simp only [List.foldlM_cons, List.foldlM_nil, bind_pure] at hstep
  cases mode with
  | plain =>
      cases hstep
      exact ⟨drafted.reverse, .inl (by simp [Draft.push])⟩
  | escaped =>
      cases hstep
      exact ⟨drafted.reverse, .inr (by simp [Draft.push])⟩
  | inClass bracket =>
      -- A star does not close a class.
      have hclass : (⟨.inClass bracket, drafted, enclosing⟩ : Draft).step '*' =
          (bracket.add '*').map fun bracket => ⟨.inClass bracket, drafted, enclosing⟩ := by
        simp [Draft.step, Draft.classStep]
      obtain ⟨bracket, -, rfl⟩ := Except.map_ok_iff.1 (hclass ▸ hstep)
      cases hmode

end Glob

namespace DistBundlePattern

variable {rule : DistBundleRule} {lead extension : List Char}

open Glob

theorem parse_leadGlob (h : unmarked? rule.lead.toList = some lead) :
    Glob.parse rule.leadGlob = .ok (lead.map verbatim ++ [.anyBytes]) := by
  rw [Glob.parse, DistBundleRule.leadGlob, show Draft.blank = Draft.outside [] from rfl,
    foldlM_escape h, List.foldlM_cons,
    show ∀ tokens, (Draft.outside tokens).step '*' = .ok (Draft.outside (.anyBytes :: tokens)) from
      fun _ => rfl,
    Except.ok_bind, List.foldlM_nil, pure_bind, finish_outside]
  simp

theorem parse_extensionGlob (h : unmarked? rule.extension.toList = some extension) :
    Glob.parse rule.extensionGlob = .ok (.anyBytes :: extension.map verbatim) := by
  have hread := foldlM_escape h [] [.anyBytes]
  rw [List.append_nil] at hread
  rw [Glob.parse, DistBundleRule.extensionGlob, List.foldlM_cons,
    show Draft.blank.step '*' = .ok (Draft.outside [.anyBytes]) from rfl, Except.ok_bind, hread,
    List.foldlM_nil, pure_bind, finish_outside]
  simp

/-- What a rule is compared with is its text without backslashes. -/
theorem accepts_iff_unmarked (hlead : unmarked? rule.lead.toList = some lead)
    (hextension : unmarked? rule.extension.toList = some extension) :
    ∃ pattern, ofRule rule = .ok pattern ∧ ∀ name : String,
      pattern.accepts name = true ↔ lead <+: name.toList ∧ extension <:+ name.toList := by
  refine ⟨⟨rule, lead.map verbatim ++ [.anyBytes], .anyBytes :: extension.map verbatim⟩, ?_, ?_⟩
  · rw [ofRule, parseGlob, parse_leadGlob hlead, parseGlob, parse_extensionGlob hextension]
    rfl
  · intro name
    rw [accepts, Bool.and_eq_true, accepts_lead_iff, accepts_extension_iff]

/-- A backslash at the end of the text behind takes the meaning of nothing, which makes no glob. -/
theorem ofRule_of_dangling {before : List Char} (hlead : unmarked? rule.lead.toList = some lead)
    (hextension : rule.extension.toList = before ++ ['\\'])
    (hbefore : unmarked? before = some extension) :
    ofRule rule = .error ⟨String.ofList rule.extensionGlob, .danglingBackslash⟩ := by
  have hglob : Glob.parse rule.extensionGlob = .error .danglingBackslash := by
    have hread := foldlM_escape hbefore ['\\'] [.anyBytes]
    rw [Glob.parse, DistBundleRule.extensionGlob, hextension, escape_append, List.foldlM_cons,
      show Draft.blank.step '*' = .ok (Draft.outside [.anyBytes]) from rfl, Except.ok_bind,
      show escape ['\\'] = ['\\'] from rfl, hread]
    rfl
  rw [ofRule, parseGlob, parse_leadGlob hlead, parseGlob, hglob]
  rfl

theorem parse_of_ofRule {pattern : DistBundlePattern} (h : ofRule rule = .ok pattern) :
    Glob.parse rule.leadGlob = .ok pattern.lead ∧
      Glob.parse rule.extensionGlob = .ok pattern.extension := by
  obtain ⟨lead, hlead, h⟩ := Except.bind_ok_iff.1 h
  obtain ⟨extension, hextension, h⟩ := Except.bind_ok_iff.1 h
  cases h
  exact ⟨Except.mapError_ok_iff.1 hlead, Except.mapError_ok_iff.1 hextension⟩

/-- A rule that accepts the empty name accepts every name. -/
theorem accepts_of_accepts_empty {pattern : DistBundlePattern} (h : ofRule rule = .ok pattern)
    (hempty : pattern.accepts "" = true) (name : String) : pattern.accepts name = true := by
  obtain ⟨hlead, hextension⟩ := parse_of_ofRule h
  rw [accepts, Bool.and_eq_true] at hempty ⊢
  constructor
  · have haccept : acceptTokens List.isEmpty pattern.lead [] = true := hempty.1
    obtain ⟨front, hfront | hfront⟩ := exists_of_parse_star hlead
    · rw [hfront, acceptTokens_append] at haccept
      rw [Glob.accepts, hfront, acceptTokens_append]
      exact (yields_acceptTokens _ front haccept).2 acceptTokens_star _
    · rw [hfront, acceptTokens_append] at haccept
      exact absurd (yields_acceptTokens _ front haccept).1 (by decide)
  · have hstar : [Token.anyBytes] <+: pattern.extension :=
      prefix_of_parse (fun _ => rfl)
        (show Glob.parse (['*'] ++ escape rule.extension.toList) = .ok pattern.extension from
          hextension)
    obtain ⟨tokens, htokens⟩ := hstar
    have haccept : acceptTokens List.isEmpty pattern.extension [] = true := hempty.2
    rw [← htokens, List.singleton_append, acceptTokens, acceptToken, skipAny] at haccept
    rw [Glob.accepts, ← htokens, List.singleton_append, acceptTokens, acceptToken,
      skipAny_eq_true]
    exact ⟨[], List.nil_suffix, haccept⟩

/-- A name that starts as a rule says is never accepted where the first backslash of that
text stands before anything but another. -/
theorem accepts_eq_false_of_backslash {before after : List Char}
    (hlead : rule.lead.toList = before ++ '\\' :: after) (hbefore : '\\' ∉ before)
    (hafter : after.head? ≠ some '\\') {pattern : DistBundlePattern}
    (h : ofRule rule = .ok pattern) {name : String} (hname : rule.lead.toList <+: name.toList) :
    pattern.accepts name = false := by
  have hnext : ∃ c rest, escape after ++ ['*'] = c :: rest ∧ c ≠ '\\' := by
    cases after with
    | nil => exact ⟨'*', [], rfl, by decide⟩
    | cons c after =>
        by_cases hc : isSpecial c = true
        · exact ⟨'[', c :: ']' :: (escape after ++ ['*']), by simp [escape, hc], by decide⟩
        · rw [Bool.not_eq_true] at hc
          exact ⟨c, _, by rw [escape_cons, escape_singleton hc]; rfl, by simpa using hafter⟩
  obtain ⟨c, rest, hrest, hc⟩ := hnext
  have hglob : rule.leadGlob = (escape before ++ ['\\', c]) ++ rest := by
    rw [DistBundleRule.leadGlob, hlead, escape_append, escape_cons, List.append_assoc,
      List.append_assoc, hrest]
    simp [escape, isSpecial]
  obtain ⟨hparse, -⟩ := parse_of_ofRule h
  rw [hglob] at hparse
  have hread : before.map verbatim ++ [.literal c] <+: pattern.lead := by
    refine prefix_of_parse (fun rest => ?_) hparse
    rw [List.append_assoc, show Draft.blank = Draft.outside [] from rfl,
      foldlM_escape (unmarked?_eq_self hbefore)]
    simp only [List.cons_append, List.nil_append, foldlM_backslash, List.append_nil,
      List.reverse_append, List.reverse_cons, List.reverse_nil]
  obtain ⟨tokens, htokens⟩ := hread
  rw [accepts, Bool.and_eq_false_iff, ← Bool.not_eq_true]
  refine .inl fun haccept => hc ?_
  rw [← htokens, List.append_assoc, List.singleton_append] at haccept
  obtain ⟨back, hback⟩ := prefix_of_accepts haccept
  obtain ⟨back', hback'⟩ := hname
  rw [← hback', hlead, List.append_assoc, List.append_assoc] at hback
  simpa using congrArg List.head? (List.append_cancel_left hback)

/-- **A rule without backslashes is literal**: it always makes a pattern, and the pattern
accepts exactly the names that start with the one text and end with the other, whatever
characters these have and whether or not they overlap in the name.

A backslash is not escaped.  Where each stands before a character that has no meaning of
its own, names are compared with the texts without them; and where the first one of the
text in front stands before anything but another, or last, no name that does start with
that text is accepted. -/
theorem ofRule_accepts (rule : DistBundleRule) :
    ('\\' ∉ rule.lead.toList → '\\' ∉ rule.extension.toList →
      ∃ pattern, ofRule rule = .ok pattern ∧ ∀ name : String, pattern.accepts name = true ↔
        rule.lead.toList <+: name.toList ∧ rule.extension.toList <:+ name.toList) ∧
    (∀ lead extension, unmarked? rule.lead.toList = some lead →
      unmarked? rule.extension.toList = some extension →
        ∃ pattern, ofRule rule = .ok pattern ∧ ∀ name : String, pattern.accepts name = true ↔
          lead <+: name.toList ∧ extension <:+ name.toList) ∧
    ∀ before after pattern, rule.lead.toList = before ++ '\\' :: after → '\\' ∉ before →
      after.head? ≠ some '\\' → ofRule rule = .ok pattern →
        ∀ name : String, rule.lead.toList <+: name.toList → pattern.accepts name = false := by
  refine ⟨fun hlead hextension => ?_, fun lead extension hlead hextension => ?_,
    fun before after pattern hlead hbefore hafter h name hname => ?_⟩
  · exact accepts_iff_unmarked (unmarked?_eq_self hlead) (unmarked?_eq_self hextension)
  · exact accepts_iff_unmarked hlead hextension
  · exact accepts_eq_false_of_backslash hlead hbefore hafter h hname

/-- Brackets and stars are characters like any other; a backslash is lost, and with it every
name that has one. -/
theorem ofRule_accepts_sample :
    (∃ pattern, ofRule ⟨"a[*", "*].jar"⟩ = .ok pattern ∧ pattern.accepts "a[*].jar" = true ∧
      pattern.accepts "a[b].jar" = false) ∧
    ∃ pattern, ofRule ⟨"a\\b", "jar"⟩ = .ok pattern ∧ pattern.accepts "ab.jar" = true ∧
      pattern.accepts "a\\b.jar" = false := by
  constructor
  · obtain ⟨pattern, hpattern, haccepts⟩ :=
      (ofRule_accepts ⟨"a[*", "*].jar"⟩).1 (by decide) (by decide)
    refine ⟨pattern, hpattern, (haccepts "a[*].jar").2 (by decide), ?_⟩
    rw [← Bool.not_eq_true, haccepts]
    decide
  · obtain ⟨-, hordinary, hrefused⟩ := ofRule_accepts ⟨"a\\b", "jar"⟩
    obtain ⟨pattern, hpattern, haccepts⟩ :=
      hordinary "ab".toList "jar".toList (by decide) (by decide)
    exact ⟨pattern, hpattern, (haccepts "ab.jar").2 (by decide),
      hrefused ['a'] ['b'] pattern rfl (by decide) (by decide) hpattern "a\\b.jar" (by decide)⟩

/-- With a backslash the rule accepts a name that does not start as it says, and does not
accept one that starts and ends as it says. -/
theorem ofRule_misreads :
    ∃ pattern, ofRule ⟨"a\\b", "jar"⟩ = .ok pattern ∧
      pattern.accepts "a\\b.jar" = false ∧
      ("a\\b".toList <+: "a\\b.jar".toList ∧ "jar".toList <:+ "a\\b.jar".toList) ∧
      pattern.accepts "ab.jar" = true ∧ ¬ "a\\b".toList <+: "ab.jar".toList :=
  ⟨_, rfl, by decide +kernel, by decide, by decide +kernel, by decide⟩

end DistBundlePattern

end ArtifactStaging
