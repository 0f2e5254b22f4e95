/-
# ArtifactStaging.Proofs.FileSystem.Descending -- going on from a directory

Names written behind a path that leads to a directory are followed on from there
(`followWithin_through`).  Only links on the way to the directory are followed before:
each takes the names behind it along, and what is left of the budget is left for the
names.

So such a path leads to what stands where its names lead (`resolveLast_append`).  The
other way round, what it leads to with a link at its end followed is what the names
lead to from the directory (`followWithin_of_append`), and that is what stands there or
what the link leads to (`followWithin_name`).
-/
import ArtifactStaging.Proofs.FileSystem.Resolution

set_option autoImplicit false

namespace ArtifactStaging

namespace FileSystem

open RawText (Plain)

variable {tree : FileTree} {asDirectory : Bool} {onLink onLink' : Route → Except IoCause Target}
  {start place : Place} {names rest : List RawText} {attributes : Attributes} {entry : Entry}
  {target : Target}

/-- From directory to directory names lead to what is there; the last may be a link. -/
theorem follow_beneath (inhabited : names ≠ []) (plain : ∀ name ∈ names, Plain name)
    (short : ∀ name ∈ names, name.size ≤ longestName)
    (way : ∀ before, before <+: names → before ≠ names →
      tree.isDirectory (place ++ before) = true)
    (here : tree.at? (place ++ names) = some entry) :
    follow tree false onLink false place names = .ok (.found (place ++ names) entry) := by
  induction names generalizing place with
  | nil => exact absurd rfl inhabited
  | cons name rest ih =>
      obtain ⟨⟨notDot, notUp⟩, plainRest⟩ := List.forall_mem_cons.1 plain
      obtain ⟨fits, shortRest⟩ := List.forall_mem_cons.1 short
      rw [follow_cons ⟨notDot, notUp⟩ fits]
      by_cases last : rest = []
      · subst last
        cases entry with
        | directory mode => simp [here, follow]
        | link target modified => simp [here]
        | file number content attributes => simp [here]
        | special kind attributes => simp [here]
      · obtain ⟨attributes, inner⟩ :=
          FileTree.exists_of_isDirectory (way [name] (by simp) (by simpa using Ne.symm last))
        have onward : place ++ name :: rest = place ++ [name] ++ rest := List.append_cons ..
        simp only [inner]
        rw [onward] at here ⊢
        refine ih last plainRest shortRest (fun before above strict => ?_) here
        have further := way (name :: before) (by simpa using above) (by simpa using strict)
        rwa [List.append_cons] at further

/-- A link takes the names behind it along, and no slash stands at their end. -/
theorem follow_link_append {followLast : Bool} {name text : RawText} {modified : Int64}
    (more : rest ≠ []) (plain : Plain name) (fits : name.size ≤ longestName)
    (inner : tree.at? (place ++ [name]) = some (.link text modified)) :
    follow tree followLast onLink false place (name :: names ++ rest) =
      onLink ⟨(Route.throughLink place text names asDirectory).start,
        (Route.throughLink place text names asDirectory).names ++ rest, false⟩ := by
  have further : (names ++ rest).isEmpty = false :=
    List.isEmpty_eq_false_iff.2 (List.append_ne_nil_of_right_ne_nil names more)
  rw [List.cons_append, follow_cons plain fits, inner]
  simp [further, Route.throughLink]

/-- Where names lead to a directory, more names behind them are followed from there, or a link on
the way takes them along. -/
theorem follow_through (more : rest ≠ [])
    (led : follow tree true onLink asDirectory start names =
      .ok (.found place (.directory attributes))) :
    (∀ followLast onLink', follow tree followLast onLink' false start (names ++ rest) =
      follow tree followLast onLink' false place rest) ∨
    ∃ route, onLink route = .ok (.found place (.directory attributes)) ∧
      ∀ followLast onLink', follow tree followLast onLink' false start (names ++ rest) =
        onLink' ⟨route.start, route.names ++ rest, false⟩ := by
  rw [follow_ok_iff] at led
  generalize heq : Target.found place (.directory attributes) = target at led
  induction led with
  | here =>
      cases heq
      exact .inl fun _ _ => rfl
  | dot _ ih => simpa only [List.cons_append, follow_dot] using ih heq
  | up _ ih => simpa only [List.cons_append, follow_up] using ih heq
  | down plain fits inner _ ih =>
      simpa only [List.cons_append, follow_down plain fits inner] using ih heq
  | through plain fits inner _ onward =>
      cases heq
      exact .inr ⟨_, onward, fun _ _ => follow_link_append more plain fits inner⟩
  | link => cases heq
  | leaf _ _ _ ends =>
      cases heq
      cases ends.1
  | missing => cases heq

/-- What is behind a directory on a route is what the names lead to from there, with what is left
of the links. -/
theorem followWithin_through (more : rest ≠ []) (links : Nat) (route : Route)
    (led : followWithin tree true links route = .ok (.found place (.directory attributes))) :
    ∃ fewer ≤ links, ∀ followLast,
      followWithin tree followLast links ⟨route.start, route.names ++ rest, false⟩ =
        followWithin tree followLast fewer ⟨place, rest, false⟩ := by
  induction links generalizing route with
  | zero =>
      rcases follow_through more led with same | ⟨further, refused, -⟩
      · exact ⟨0, le_rfl, fun followLast => same followLast _⟩
      · cases refused
  | succ links ih =>
      rcases follow_through more led with same | ⟨further, taken, along⟩
      · exact ⟨links + 1, le_rfl, fun followLast => same followLast _⟩
      · obtain ⟨fewer, less, same⟩ := ih further taken
        exact ⟨fewer, Nat.le_succ_of_le less, fun followLast =>
          (along followLast _).trans (same followLast)⟩

/-- A path with names behind it that the system looks at leads to what stands there. -/
theorem resolveLast_append {fs : FileSystem} {path longer : RawText}
    (led : fs.locate path = .ok (place, .directory attributes)) (inhabited : names ≠ [])
    (plain : ∀ name ∈ names, Plain name)
    (short : ∀ name ∈ names, name.size ≤ longestName)
    (way : ∀ before, before <+: names → before ≠ names →
      fs.tree.isDirectory (place ++ before) = true)
    (here : fs.tree.at? (place ++ names) = some entry) (checked : checkPath longer = .ok ())
    (absolute : longer.isAbsolute = path.isAbsolute)
    (split : longer.names = path.names ++ names) :
    fs.resolveLast longer = .ok (.found (place ++ names) entry) := by
  obtain ⟨-, reached⟩ := locate_ok_iff.1 led
  obtain ⟨fewer, -, same⟩ := followWithin_through inhabited linkBudget _ reached
  have onward : followWithin fs.tree false fewer ⟨place, names, false⟩ =
      .ok (.found (place ++ names) entry) := by
    cases fewer <;> exact follow_beneath inhabited plain short way here
  rw [resolveLast, checked]
  change followWithin _ _ _ _ = _
  simpa [Route.ofPath, absolute, split] using (same false).trans onward

/-! ## What was reached through a directory -/

/-- A larger budget changes nothing that was reached. -/
theorem follow_of_onLink {followLast : Bool}
    (links : ∀ route target, onLink route = .ok target → onLink' route = .ok target)
    (led : follow tree followLast onLink asDirectory start names = .ok target) :
    follow tree followLast onLink' asDirectory start names = .ok target := by
  rw [follow_ok_iff] at led ⊢
  induction led with
  | here stands => exact .here stands
  | dot _ ih => exact .dot ih
  | up _ ih => exact .up ih
  | down plain fits inner _ ih => exact .down plain fits inner ih
  | through plain fits inner followed onward =>
      exact .through plain fits inner followed (links _ _ onward)
  | link plain fits inner stays => exact .link plain fits inner stays
  | leaf plain fits inner ends bare => exact .leaf plain fits inner ends bare
  | missing plain fits absent => exact .missing plain fits absent

theorem followWithin_succ {followLast : Bool} {links : Nat} {route : Route}
    (led : followWithin tree followLast links route = .ok target) :
    followWithin tree followLast (links + 1) route = .ok target := by
  induction links generalizing route target with
  | zero => exact follow_of_onLink (fun _ _ h => by cases h) led
  | succ links ih => exact follow_of_onLink (fun _ _ => ih) led

theorem followWithin_mono {followLast : Bool} {fewer links : Nat} {route : Route}
    (less : fewer ≤ links) (led : followWithin tree followLast fewer route = .ok target) :
    followWithin tree followLast links route = .ok target := by
  induction less with
  | refl => exact led
  | step _ ih => exact followWithin_succ ih

/-- What is reached through a directory is reached from there. -/
theorem followWithin_of_append (more : rest ≠ []) {links : Nat} {route : Route}
    (led : followWithin tree true links route = .ok (.found place (.directory attributes)))
    (further : followWithin tree true links ⟨route.start, route.names ++ rest, false⟩ =
      .ok target) :
    followWithin tree true links ⟨place, rest, false⟩ = .ok target := by
  obtain ⟨fewer, less, same⟩ := followWithin_through more links route led
  exact followWithin_mono less ((same true).symm.trans further)

/-- From directory to directory, it is reached from the last of them. -/
theorem follow_last {followLast : Bool} {last : RawText} (plain : ∀ name ∈ names, Plain name)
    (way : ∀ before, before <+: names → tree.isDirectory (place ++ before) = true)
    (led : follow tree followLast onLink asDirectory place (names ++ [last]) = .ok target) :
    follow tree followLast onLink asDirectory (place ++ names) [last] = .ok target := by
  induction names generalizing place with
  | nil => simpa using led
  | cons name rest ih =>
      obtain ⟨plainName, plainRest⟩ := List.forall_mem_cons.1 plain
      obtain ⟨attributes, inner⟩ := FileTree.exists_of_isDirectory (way [name] (by simp))
      rw [List.cons_append] at led
      rw [follow_down plainName (fits_of_follow plainName led) inner] at led
      rw [List.append_cons]
      refine ih plainRest (fun before above => ?_) led
      have further := way (name :: before) (by simpa using above)
      rwa [List.append_cons] at further

theorem followWithin_last {followLast : Bool} {links : Nat} {last : RawText}
    (plain : ∀ name ∈ names, Plain name)
    (way : ∀ before, before <+: names → tree.isDirectory (place ++ before) = true)
    (led : followWithin tree followLast links ⟨place, names ++ [last], asDirectory⟩ = .ok target) :
    followWithin tree followLast links ⟨place ++ names, [last], asDirectory⟩ = .ok target := by
  cases links with
  | zero => exact follow_last plain way led
  | succ links => exact follow_last plain way led

/-- A single name leads to what stands there, or to what a link that stands there leads to. -/
theorem follow_name {last : RawText} {standing : Entry} (plain : Plain last)
    (here : tree.at? (place ++ [last]) = some standing)
    (led : follow tree true onLink false place [last] = .ok target) :
    ((∀ text time, standing ≠ .link text time) ∧ target = .found (place ++ [last]) standing) ∨
      ∃ text time, standing = .link text time ∧ onLink (Route.ofPath place text) = .ok target := by
  rw [follow_cons plain (fits_of_follow plain led), here] at led
  cases standing with
  | directory mode =>
      simp only [follow, here] at led
      exact .inl ⟨by simp, (Except.ok.inj led).symm⟩
  | file number content attributes => exact .inl ⟨by simp, (Except.ok.inj led).symm⟩
  | special kind attributes => exact .inl ⟨by simp, (Except.ok.inj led).symm⟩
  | link text time => exact .inr ⟨text, time, rfl, by simpa [Route.throughLink] using led⟩

theorem followWithin_name {links : Nat} {last : RawText} {standing : Entry} (plain : Plain last)
    (here : tree.at? (place ++ [last]) = some standing)
    (led : followWithin tree true links ⟨place, [last], false⟩ = .ok target) :
    ((∀ text time, standing ≠ .link text time) ∧ target = .found (place ++ [last]) standing) ∨
      ∃ text time, standing = .link text time ∧
        followWithin tree true links (Route.ofPath place text) = .ok target := by
  cases links with
  | zero =>
      refine (follow_name plain here led).imp_right ?_
      rintro ⟨text, time, -, refused⟩
      cases refused
  | succ links =>
      refine (follow_name plain here led).imp_right ?_
      rintro ⟨text, time, link, further⟩
      exact ⟨text, time, link, followWithin_succ further⟩

/-! ## What stands behind a leaf -/

/-- Where names lead to what is neither a directory nor a link, a name behind them leads to
nothing. -/
theorem follow_behind_leaf {name : RawText} {origin : Place} {found : Entry} (plain : Plain name)
    (ends : entry.IsLeaf)
    (links : ∀ route, onLink route = .ok (.found place entry) →
      onLink' ⟨route.start, route.names ++ [name], false⟩ ≠ .ok (.found origin found))
    (led : follow tree true onLink asDirectory start names = .ok (.found place entry)) :
    follow tree true onLink' false start (names ++ [name]) ≠ .ok (.found origin found) := by
  intro reached
  rw [follow_ok_iff] at led
  generalize heq : Target.found place entry = target at led
  induction led with
  | here stands =>
      cases heq
      rw [List.nil_append, follow_cons plain (fits_of_follow plain reached),
        FileTree.at?_behind stands ends.1] at reached
      cases reached
  | dot _ ih => exact ih (follow_dot.symm.trans reached) heq
  | up _ ih => exact ih (follow_up.symm.trans reached) heq
  | down plain fits inner _ ih => exact ih ((follow_down plain fits inner).symm.trans reached) heq
  | through plain fits inner _ onward =>
      cases heq
      exact links _ onward ((follow_link_append (by simp) plain fits inner).symm.trans reached)
  | link =>
      cases heq
      exact ends.2 _ _ rfl
  | leaf plain fits inner ends =>
      rw [List.singleton_append, follow_leaf plain fits inner ends] at reached
      cases reached
  | missing => cases heq

theorem followWithin_behind_leaf {name : RawText} {origin : Place} {found : Entry}
    (plain : Plain name) (ends : entry.IsLeaf) (links : Nat) (route : Route)
    (led : followWithin tree true links route = .ok (.found place entry)) :
    followWithin tree true links ⟨route.start, route.names ++ [name], false⟩ ≠
      .ok (.found origin found) := by
  induction links generalizing route with
  | zero => exact follow_behind_leaf plain ends (fun _ h => by cases h) led
  | succ links ih => exact follow_behind_leaf plain ends ih led

end FileSystem

end ArtifactStaging
