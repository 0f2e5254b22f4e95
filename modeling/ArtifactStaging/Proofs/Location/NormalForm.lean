/-
# ArtifactStaging.Proofs.Location.NormalForm -- what moving up and down keeps of the normal form

Reading a location drops its trailing slashes, and so does joining.  Moving up does not: it
cuts the path at its last slash and keeps what stands before as it is.  So the parent is
normal unless another slash stands there (`normal_parent_iff`); such a location is `Doubled`.

* `after?_normal_iff` says it of any moves from any location that was read.  The path is never
  empty.  It is normal unless the last move that led anywhere went up from a doubled location,
  and no location is doubled where two slashes stand nowhere, neither in the path that was read
  nor within what was joined.
* Normal locations whose paths are spelled alike but for slashes at their ends are equal
  (`Normal.eq_of_spelled`), and slashes behind a text do not change what is read from it, unless
  they make it a URI (`parse?_append_slashes`).
* The parent of `a//b` is not what `a/` is read as (`parent_keeps_slash`).
-/
import ArtifactStaging.Proofs.Location.Grammar
import ArtifactStaging.Proofs.Staging.Destinations

set_option autoImplicit false

namespace ArtifactStaging

open Text

/-! ## Slashes at the end of a text -/

namespace Text

variable {c : Char} {text before : List Char}

theorem dropTrailing_append_replicate (c : Char) (text : List Char) (count : Nat) :
    dropTrailing c (text ++ List.replicate count c) = dropTrailing c text := by
  unfold dropTrailing
  rw [List.reverse_append, List.reverse_replicate,
    List.dropWhile_append_of_pos fun d hd => by simpa using List.eq_of_mem_replicate hd]

/-- What two slashes start once slashes stand behind it, and not before, is one slash. -/
theorem eq_slash_of_append {tail : List Char} {count : Nat} (inhabited : text ≠ [])
    (unmarked : ∀ tail, text ≠ '/' :: '/' :: tail)
    (h : text ++ List.replicate count '/' = '/' :: '/' :: tail) :
    text = ['/'] ∧ ∃ fewer, tail = List.replicate fewer '/' := by
  cases text with
  | nil => exact absurd rfl inhabited
  | cons c rest =>
      obtain ⟨rfl, hmore⟩ := List.cons.inj h
      cases rest with
      | nil =>
          cases count with
          | zero => cases hmore
          | succ fewer => exact ⟨rfl, fewer, (List.cons.inj hmore).2.symm⟩
      | cons d rest =>
          obtain ⟨rfl, -⟩ := List.cons.inj hmore
          exact absurd rfl (unmarked rest)

/-- No two slashes stand side by side. -/
def Single (text : List Char) : Prop := ¬ ['/', '/'] <:+: text

theorem Single.of_prefix (single : Single text) (h : before <+: text) : Single before :=
  fun twice => single (twice.trans h.isInfix)

/-- Texts without two slashes side by side, put together around one slash, have none either. -/
theorem Single.append_slash {after : List Char} (single : Single before) (single' : Single after)
    (last : before.getLast? ≠ some '/') (first : after.head? ≠ some '/') :
    Single (before ++ '/' :: after) := by
  rintro ⟨front, back, heq⟩
  rw [List.append_assoc] at heq
  rcases List.append_eq_append_iff.1 heq with ⟨more, rfl, hmore⟩ | ⟨more, rfl, hmore⟩
  · -- The first of the two stands in what comes before, or is the slash between.
    cases more with
    | nil =>
        obtain ⟨-, rest⟩ := List.cons.inj hmore
        exact first (by rw [← rest]; rfl)
    | cons d more =>
        obtain ⟨rfl, hrest⟩ := List.cons.inj hmore
        cases more with
        | nil => simp at last
        | cons e more =>
            obtain ⟨rfl, -⟩ := List.cons.inj hrest
            exact single ⟨front, more, by simp⟩
  · cases more with
    | nil =>
        obtain ⟨-, rest⟩ := List.cons.inj hmore
        exact first (by rw [rest]; rfl)
    | cons d more =>
        obtain ⟨rfl, rfl⟩ := List.cons.inj hmore
        exact single' ⟨more, back, by simp⟩

end Text

namespace Location

variable {location parent start other : Location} {raw : String}

theorem normalize_append_replicate {text : List Char} (inhabited : text ≠ []) (count : Nat) :
    normalize (text ++ List.replicate count '/') = normalize text := by
  rw [normalize, normalize, dropTrailing_append_replicate]
  simp [inhabited]

/-- Normal locations that are spelled alike but for slashes at the end are equal. -/
theorem Normal.eq_of_spelled (normal : location.Normal) (normal' : other.Normal)
    (scheme : location.scheme = other.scheme) (authority : location.authority = other.authority)
    (spelled : dropTrailing '/' location.path.toList = dropTrailing '/' other.path.toList) :
    location = other := by
  have inhabited : location.path.toList ≠ [] := by simpa using normal.inhabited
  have inhabited' : other.path.toList ≠ [] := by simpa using normal'.inhabited
  refine eq_of_path scheme authority ?_
  rw [← normal.normalize, ← normal'.normalize, Location.normalize, Location.normalize, spelled]
  simp [inhabited, inhabited']

/-! ## Moving up -/

/-- What stands before the last slash of a path ends in a slash, and is not the root. -/
def Doubled (location : Location) : Prop :=
  ∃ front name, front ≠ [] ∧ '/' ∉ name ∧
    location.path.toList = front ++ '/' :: '/' :: name

theorem not_doubled_of_single (single : Single location.path.toList) : ¬ location.Doubled := by
  rintro ⟨front, name, -, -, hpath⟩
  exact single ⟨front, name, by rw [hpath]; simp⟩

/-- A parent has what stands before the last slash as its path, or the root. -/
theorem parent?_cut (h : location.parent? = some parent) :
    ∃ front name, '/' ∉ name ∧ location.path.toList = front ++ '/' :: name ∧
      parent.scheme = location.scheme ∧ parent.authority = location.authority ∧
      parent.path.toList = if front = [] then ['/'] else front := by
  have whole := isRoot_of_parent? h
  rw [parent?, if_neg (by simp [whole])] at h
  split at h
  · cases h
  · next name hcut =>
    cases h
    exact ⟨[], name, (cutLast?_eq_some hcut).2, (cutLast?_eq_some hcut).1, rfl, rfl, by simp⟩
  · next front name inhabited hcut =>
    cases h
    refine ⟨front, name, (cutLast?_eq_some hcut).2, (cutLast?_eq_some hcut).1, rfl, rfl, ?_⟩
    rw [if_neg inhabited, String.toList_ofList]

theorem inhabited_parent (h : location.parent? = some parent) : parent.path ≠ "" := by
  obtain ⟨front, name, -, -, -, -, hpath⟩ := parent?_cut h
  intro hempty
  rw [hempty] at hpath
  split at hpath
  · cases hpath
  · next inhabited => exact inhabited hpath.symm

/-- **Moving up leads to a normal location**, whatever it leads from, unless that is doubled. -/
theorem normal_parent_iff (h : location.parent? = some parent) :
    parent.Normal ↔ ¬ location.Doubled := by
  obtain ⟨front, name, hname, hpath, -, -, hparent⟩ := parent?_cut h
  -- The last slash of a path is where it is doubled, if it is.
  have doubled : location.Doubled ↔ front ≠ ['/'] ∧ front.getLast? = some '/' := by
    constructor
    · rintro ⟨front', name', hfront', hname', hpath'⟩
      rw [hpath, show front' ++ '/' :: '/' :: name' = (front' ++ ['/']) ++ '/' :: name' by simp]
        at hpath'
      have hcut : cutLast? '/' (front ++ '/' :: name) = some (front, name) := cutLast?_append hname
      rw [hpath', cutLast?_append hname'] at hcut
      obtain ⟨rfl, -⟩ := Prod.mk.inj (Option.some.inj hcut)
      simpa using hfront'
    · rintro ⟨proper, hlast⟩
      obtain ⟨front', rfl⟩ := List.getLast?_eq_some_iff.1 hlast
      exact ⟨front', name, by simpa using proper, hname, by rw [hpath]; simp⟩
  rw [doubled]
  constructor
  · rintro normal ⟨proper, hlast⟩
    have inhabited : front ≠ [] := by
      rintro rfl
      cases hlast
    rw [if_neg inhabited] at hparent
    have hroot := normal.trailing (hparent ▸ hlast)
    rw [hroot] at hparent
    exact proper hparent.symm
  · intro single
    refine ⟨inhabited_parent h, fun hlast => ?_⟩
    rw [← String.toList_inj, hparent]
    rw [hparent] at hlast
    split at hlast
    · next hempty => exact if_pos hempty
    · next inhabited =>
      rw [if_neg inhabited]
      by_contra proper
      exact single ⟨proper, hlast⟩

/-- A parent's path begins the location's path, unless it is the root. -/
theorem single_parent (single : Single location.path.toList) (h : location.parent? = some parent) :
    Single parent.path.toList := by
  obtain ⟨front, name, -, hpath, -, -, hparent⟩ := parent?_cut h
  refine single.of_prefix ?_
  rw [hparent, hpath]
  split
  · next hempty => exact ⟨name, by rw [hempty]; rfl⟩
  · exact List.prefix_append front _

/-! ## Any moves -/

/-- A way to come from one location to another. -/
inductive Move
  | up
  | down (relative : String)

/-- A move that leads nowhere: nothing is joined. -/
def Move.Idle : Move → Prop
  | .up => False
  | .down relative => trim '/' relative.toList = []

/-- Where a move leads. -/
def move? (location : Location) : Move → Option Location
  | .up => location.parent?
  | .down relative => some (location.join relative)

/-- Where moves lead, one after the other; nowhere, once there is no parent. -/
def after? (start : Location) (moves : List Move) : Option Location := moves.foldlM move? start

/-- Of the moves that lead anywhere, the last one goes up from a doubled location. -/
def Slack (start : Location) (moves : List Move) : Prop :=
  ∃ before idle earlier, moves = before ++ .up :: idle ∧ (∀ move ∈ idle, move.Idle) ∧
    start.after? before = some earlier ∧ earlier.Doubled

variable {moves : List Move} {move : Move}

theorem after?_concat (start : Location) (moves : List Move) (move : Move) :
    start.after? (moves ++ [move]) = (start.after? moves).bind (·.move? move) := by
  simp [after?, List.foldlM_append]

/-- The last move led from somewhere. -/
theorem after?_concat_eq_some (h : start.after? (moves ++ [move]) = some location) :
    ∃ earlier, start.after? moves = some earlier ∧ earlier.move? move = some location :=
  Option.bind_eq_some_iff.1 ((after?_concat start moves move).symm.trans h)

theorem not_slack_nil : ¬ start.Slack [] := by
  rintro ⟨before, idle, earlier, hmoves, -⟩
  simp at hmoves

/-- Of some moves and one more, the last one decides unless it leads nowhere. -/
theorem slack_concat :
    start.Slack (moves ++ [move]) ↔
      (move = .up ∧ ∃ earlier, start.after? moves = some earlier ∧ earlier.Doubled) ∨
        move.Idle ∧ start.Slack moves := by
  constructor
  · rintro ⟨before, idle, earlier, hmoves, hidle, h, doubled⟩
    rcases List.eq_nil_or_concat idle with rfl | ⟨idle', last, rfl⟩
    · obtain ⟨rfl, hlast⟩ := List.append_inj' hmoves rfl
      exact .inl ⟨(List.cons.inj hlast).1, earlier, h, doubled⟩
    · rw [List.concat_eq_append, ← List.cons_append, ← List.append_assoc] at hmoves
      obtain ⟨rfl, hlast⟩ := List.append_inj' hmoves rfl
      obtain ⟨rfl, -⟩ := List.cons.inj hlast
      refine .inr ⟨hidle move (by simp), before, idle', earlier, rfl, ?_, h, doubled⟩
      intro other hother
      exact hidle other (by simp [hother])
  · rintro (⟨rfl, earlier, h, doubled⟩ | ⟨last, before, idle, earlier, rfl, hidle, h, doubled⟩)
    · exact ⟨moves, [], earlier, rfl, by simp, h, doubled⟩
    · refine ⟨before, idle ++ [move], earlier, by simp, ?_, h, doubled⟩
      intro other hother
      rcases List.mem_append.1 hother with hother | hother
      · exact hidle other hother
      · rwa [List.mem_singleton.1 hother]

/-- A move leads to a path that is not empty. -/
theorem inhabited_move (inhabited : location.path ≠ "") (h : location.move? move = some other) :
    other.path ≠ "" := by
  cases move with
  | up => exact inhabited_parent h
  | down relative =>
      obtain rfl := Option.some.inj h
      by_cases idle : trim '/' relative.toList = []
      · rwa [join_eq_self idle]
      · exact (normal_join idle).inhabited

theorem inhabited_after (inhabited : start.path ≠ "") (h : start.after? moves = some location) :
    location.path ≠ "" := by
  induction moves using List.reverseRecOn generalizing location with
  | nil => rwa [← Option.some.inj h]
  | append_singleton moves move ih =>
      obtain ⟨earlier, hbefore, hmove⟩ := after?_concat_eq_some h
      exact inhabited_move (ih hbefore) hmove

/-- By induction on the moves, of which the last one decides unless it leads nowhere. -/
theorem normal_after_iff (normal : start.Normal) (h : start.after? moves = some location) :
    location.Normal ↔ ¬ start.Slack moves := by
  induction moves using List.reverseRecOn generalizing location with
  | nil =>
      obtain rfl := Option.some.inj h
      exact iff_of_true normal not_slack_nil
  | append_singleton moves move ih =>
      obtain ⟨earlier, hbefore, hmove⟩ := after?_concat_eq_some h
      cases move with
      | up =>
          rw [normal_parent_iff hmove, slack_concat]
          simp [hbefore, Move.Idle]
      | down relative =>
          obtain rfl := Option.some.inj hmove
          rw [slack_concat]
          by_cases idle : trim '/' relative.toList = []
          · rw [join_eq_self idle, ih hbefore]
            simp [Move.Idle, idle]
          · refine iff_of_true (normal_join idle) ?_
            simp [Move.Idle, idle]

/-- Where two slashes stand side by side neither in the path nor in what is joined, they never
do, and every location on the way is normal. -/
theorem normal_after_of_single (normal : start.Normal) (single : Single start.path.toList)
    (joined : ∀ relative, Move.down relative ∈ moves → Single (trim '/' relative.toList))
    (h : start.after? moves = some location) :
    location.Normal ∧ Single location.path.toList := by
  induction moves using List.reverseRecOn generalizing location with
  | nil =>
      obtain rfl := Option.some.inj h
      exact ⟨normal, single⟩
  | append_singleton moves move ih =>
      obtain ⟨earlier, hbefore, hmove⟩ := after?_concat_eq_some h
      obtain ⟨normal', single'⟩ := ih
        (fun relative hmem => joined relative (List.mem_append_left _ hmem)) hbefore
      cases move with
      | up => exact ⟨(normal_parent_iff hmove).2 (not_doubled_of_single single'),
          single_parent single' hmove⟩
      | down relative =>
          obtain rfl := Option.some.inj hmove
          refine ⟨normal'.join, ?_⟩
          by_cases idle : trim '/' relative.toList = []
          · rwa [join_eq_self idle]
          obtain ⟨front, hlead, hlast, hfront⟩ := normal'.lead_eq_append
          rw [path_join normal' idle, hlead, List.append_assoc]
          refine Single.append_slash ?_ (joined relative (by simp)) hlast head?_trim
          rcases hfront with ⟨rfl, -⟩ | rfl
          · exact fun twice => by simpa using twice.length_le
          · exact single'

/-! ## Slashes behind a text that is read -/

/-- Slashes that make a text a URI stand behind a scheme and its colon. -/
theorem uri_append_slashes {text : List Char} {count : Nat} (path : ¬ Uri text)
    (uri : Uri (text ++ List.replicate count '/')) :
    ∃ scheme, isScheme scheme = true ∧ (text = scheme ++ [':'] ∨ text = scheme ++ [':', '/']) := by
  cases count with
  | zero => exact absurd (by simpa using uri) path
  | succ count =>
      rw [List.replicate_succ] at uri
      generalize htext : text ++ '/' :: List.replicate count '/' = whole at uri
      cases uri with
      | @mark scheme hscheme rest =>
          obtain ⟨middle, rfl, hrest⟩ := colon_before_slash hscheme htext
          refine ⟨scheme, hscheme, ?_⟩
          -- Of the two slashes behind the colon, the text holds none or one.
          cases middle with
          | nil => exact .inl rfl
          | cons c middle =>
              obtain ⟨rfl, htail⟩ := List.cons.inj hrest
              cases middle with
              | nil => exact .inr rfl
              | cons d middle =>
                  obtain ⟨rfl, -⟩ := List.cons.inj htail
                  exact absurd (.mark hscheme middle) path
      | @colon scheme rest hscheme hlong hne =>
          obtain ⟨middle, rfl, -⟩ := colon_before_slash hscheme htext
          by_cases hmiddle : middle = []
          · exact ⟨scheme, hscheme, .inl (by rw [hmiddle])⟩
          · exact absurd (.colon hscheme hlong hmiddle) path

theorem authorityAndPath_append_slashes (rest : List Char) (count : Nat) :
    (authorityAndPath (rest ++ List.replicate count '/')).1 = (authorityAndPath rest).1 ∧
    normalize (authorityAndPath (rest ++ List.replicate count '/')).2 =
      normalize (authorityAndPath rest).2 := by
  cases hcut : cutFirst? '/' rest with
  | some cut =>
      obtain ⟨authority, path⟩ := cut
      obtain ⟨rfl, whole⟩ := cutFirst?_eq_some hcut
      have happend := normalize_append_replicate (List.cons_ne_nil '/' path) count
      rw [List.append_assoc, List.cons_append] at *
      rw [authorityAndPath_append whole rfl, authorityAndPath_append whole rfl]
      exact ⟨rfl, happend⟩
  | none =>
      have whole := cutFirst?_eq_none.1 hcut
      have alone : authorityAndPath rest = (rest, ['/']) := by simp [authorityAndPath, hcut]
      cases count with
      | zero => simp
      | succ count =>
          rw [List.replicate_succ, authorityAndPath_append whole rfl, alone]
          exact ⟨rfl, normalize_append_replicate (List.cons_ne_nil '/' []) count⟩

/-- What is read with a scheme is read the same with more slashes behind it. -/
theorem parse?_uri_append_slashes (uri : Uri raw.toList) {slashed : String} {count : Nat}
    (hslashed : slashed.toList = raw.toList ++ List.replicate count '/') :
    parse? slashed = parse? raw := by
  generalize hraw : raw.toList = text at uri
  rw [hraw] at hslashed
  -- With two slashes behind the colon, an authority is read.
  have marked {scheme rest : List Char} (hscheme : isScheme scheme = true)
      (htext : text = scheme ++ ':' :: '/' :: '/' :: rest) : parse? slashed = parse? raw := by
    obtain ⟨hauthority, hpath⟩ := authorityAndPath_append_slashes rest count
    rw [htext] at hraw hslashed
    rw [parse?_mark hraw hscheme, parse?_mark (by simpa using hslashed) hscheme, hauthority, hpath]
  cases uri with
  | mark hscheme rest => exact marked hscheme rfl
  | @colon scheme rest hscheme hlong hrest =>
      by_cases hmark : ∃ tail, rest = '/' :: '/' :: tail
      · obtain ⟨tail, rfl⟩ := hmark
        exact marked hscheme rfl
      rw [parse?_colon hraw hscheme hlong hrest (not_exists.1 hmark)]
      rw [List.append_assoc, List.cons_append] at hslashed
      by_cases hmark' : ∃ tail, rest ++ List.replicate count '/' = '/' :: '/' :: tail
      · -- A slash and more behind it are an empty authority and the root.
        obtain ⟨tail, htail⟩ := hmark'
        obtain ⟨rfl, fewer, rfl⟩ := eq_slash_of_append hrest (not_exists.1 hmark) htail
        obtain ⟨hauthority, hpath⟩ := authorityAndPath_append_slashes [] fewer
        rw [List.nil_append] at hauthority hpath
        rw [parse?_mark (htail ▸ hslashed) hscheme, hauthority, hpath]
        rfl
      · rw [parse?_colon hslashed hscheme hlong (by simp [hrest]) (not_exists.1 hmark'),
          normalize_append_replicate hrest]

/-- **Slashes behind a text change nothing that is read**, unless they make it a URI: a scheme and
its colon are a path, as is the letter of a drive with one slash. -/
theorem parse?_append_slashes {count : Nat} (read : parse? raw = some start)
    (read' : parse? (raw ++ String.ofList (List.replicate count '/')) = some other) :
    other = start ∨ start.scheme = none ∧ other.scheme ≠ none ∧ ∃ scheme, isScheme scheme = true ∧
      (raw.toList = scheme ++ [':'] ∨ raw.toList = scheme ++ [':', '/']) := by
  have inhabited : raw ≠ "" := by
    rintro rfl
    cases read
  have hslashed : (raw ++ String.ofList (List.replicate count '/')).toList =
      raw.toList ++ List.replicate count '/' := by simp
  by_cases uri : Uri raw.toList
  · rw [parse?_uri_append_slashes uri hslashed, read] at read'
    exact .inl (Option.some.inj read').symm
  obtain rfl := Option.some.inj ((parse?_of_not_uri inhabited uri).symm.trans read)
  by_cases uri' : Uri (raw.toList ++ List.replicate count '/')
  · refine .inr ⟨rfl, ?_, uri_append_slashes uri uri'⟩
    obtain ⟨scheme, rest, splits, named⟩ := uri_iff.1 (hslashed ▸ uri')
    rw [(splits.read named read').1]
    exact Option.some_ne_none _
  · have inhabited' : raw ++ String.ofList (List.replicate count '/') ≠ "" := by
      simp [inhabited]
    rw [parse?_of_not_uri inhabited' (hslashed ▸ uri'), hslashed, plain,
      normalize_append_replicate (by simpa using inhabited)] at read'
    exact .inl (Option.some.inj read').symm

/-! ## The normal form along any moves -/

/-- **What any moves keep of the normal form.**  From a location that was read, any moves up and
down lead to a path that is not empty.  It ends in no slash, the root apart, unless the last move
that led anywhere went up from a doubled location; so it never does where two slashes stand side by
side neither in the path that was read nor in what was joined.  A location that ends so is equal to
any other one that ends so and is spelled like it but for slashes at the end; and with slashes
behind it, a text is read as the same location, unless they make a URI of a path. -/
theorem after?_normal_iff (read : Location.parse raw = .ok start)
    (moved : start.after? moves = some location) :
    location.path ≠ "" ∧
    (location.Normal ↔ ¬ start.Slack moves) ∧
    (Single start.path.toList →
      (∀ relative, Move.down relative ∈ moves → Single (trim '/' relative.toList)) →
      location.Normal) ∧
    (location.Normal → ∀ other : Location, other.Normal → location.scheme = other.scheme →
      location.authority = other.authority →
      dropTrailing '/' location.path.toList = dropTrailing '/' other.path.toList →
      location = other) ∧
    ∀ count other,
      Location.parse (raw ++ String.ofList (List.replicate count '/')) = .ok other →
      other = start ∨ start.scheme = none ∧ other.scheme ≠ none ∧
        ∃ scheme, isScheme scheme = true ∧
          (raw.toList = scheme ++ [':'] ∨ raw.toList = scheme ++ [':', '/']) := by
  have read := parse_ok_iff.1 read
  have normal := normal_of_parse? read
  refine ⟨inhabited_after normal.inhabited moved, normal_after_iff normal moved, ?_, ?_, ?_⟩
  · intro single joined
    exact (normal_after_of_single normal single joined moved).1
  · intro hnormal other
    exact hnormal.eq_of_spelled
  · intro count other read'
    exact parse?_append_slashes read (parse_ok_iff.1 read')

/-- Down from `/x` and up again, with slashes at the ends of everything. -/
theorem after?_normal_sample :
    Location.parse "/x//" = .ok ⟨none, "", "/x"⟩ ∧
    (⟨none, "", "/x"⟩ : Location).after? [.down "/c/d/", .up, .up] = some ⟨none, "", "/x"⟩ ∧
    Location.parse "/x///" = .ok ⟨none, "", "/x"⟩ ∧
    (⟨none, "", "/x"⟩ : Location).Normal := by
  have read : Location.parse "/x//" = .ok ⟨none, "", "/x"⟩ := by decide
  have moved : (⟨none, "", "/x"⟩ : Location).after? [.down "/c/d/", .up, .up] =
      some ⟨none, "", "/x"⟩ := by decide
  obtain ⟨-, -, normal, -⟩ := after?_normal_iff read moved
  refine ⟨read, moved, by decide, normal ?_ ?_⟩
  · exact fun twice => absurd twice (by decide)
  · intro relative joined
    obtain rfl : relative = "/c/d/" := by simpa using joined
    exact fun twice => absurd twice (by decide)

/-- The parent of `a//b` ends in a slash, and is not what its own text is read as. -/
theorem parent_keeps_slash :
    (¬ ∀ (raw : String) (start location : Location) (moves : List Move),
      Location.parse raw = .ok start → start.after? moves = some location → location.Normal) ∧
    (⟨none, "", "a//b"⟩ : Location).parent? = some ⟨none, "", "a/"⟩ ∧
    Location.parse "a/" = .ok ⟨none, "", "a"⟩ := by
  have above : (⟨none, "", "a//b"⟩ : Location).parent? = some ⟨none, "", "a/"⟩ := by decide
  refine ⟨fun claim => ?_, above, by decide⟩
  have read : Location.parse "a//b" = .ok ⟨none, "", "a//b"⟩ := by decide
  have normal := claim "a//b" _ _ [.up] read above
  exact absurd (normal.trailing (by decide)) (by decide)

end Location

end ArtifactStaging
