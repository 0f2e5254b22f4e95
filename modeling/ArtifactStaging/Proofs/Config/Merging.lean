/-
# ArtifactStaging.Proofs.Config.Merging -- which layer a setting comes from

Merging is not associative and takes members out and puts them back, at every
depth, layer upon layer.  What is found at a path afterwards has a short
description nevertheless (`follow?_merge`): nothing, if the layer on top has
something other than an object on the way; else what that layer binds there,
laid over what was there below.

From one layer on top of another the whole list follows by induction on its end.
A layer prevails at a path when it holds something there and every later layer
makes way for it.  A later layer makes way as long as only objects lie before the
path in it; at the path itself an object lets an object through, and anything
else is let through by nothing but the lack of an entry.
-/
import ArtifactStaging.Config.Merge
import ArtifactStaging.Dictionary
import Mathlib.Data.List.Induction

set_option autoImplicit false

namespace ArtifactStaging

/-! ## Paths into a value -/

namespace Json

/-- Whether a value is an object. -/
def isObject : Json → Bool
  | .obj _ => true
  | _ => false

mutual

/-- Every object that is reached through members names its members once. -/
def distinct : Json → Bool
  | .obj members => decide (members.map Prod.fst).Nodup && distinctMembers members
  | _ => true

/-- The same for the value of every member. -/
def distinctMembers : Members → Bool
  | [] => true
  | (_, value) :: rest => value.distinct && distinctMembers rest

end

/-- A path leads to an object. -/
def HoldsObject (value : Json) (path : List String) : Prop :=
  ∃ members, value.follow? path = some (.obj members)

/-- A path leads to something other than an object. -/
def BindsPlain (value : Json) (path : List String) : Prop :=
  ∃ found, value.follow? path = some found ∧ found.isObject = false

/-- Nothing but objects lies on the way to a path, as far as the way goes. -/
def makesWay : List String → Json → Bool
  | [], _ => true
  | name :: rest, .obj members =>
      match lookup name members with
      | some inner => makesWay rest inner
      | none => true
  | _ :: _, _ => false

variable {name : String} {path : List String} {value : Json} {members : Members}

theorem isObject_iff : value.isObject = true ↔ ∃ members, value = .obj members := by
  cases value <;> simp [isObject]

theorem lookup_eq_none (h : name ∉ members.map Prod.fst) : lookup name members = none := by
  induction members with
  | nil => rfl
  | cons member rest ih =>
      simp only [List.map_cons, List.mem_cons, not_or] at h
      rw [lookup, if_neg fun same => h.1 same.symm, ih h.2]

/-- Members are looked up as the entries of a dictionary are. -/
theorem lookup_eq_find? (name : String) (members : Members) :
    lookup name members = Dictionary.find? name members := by
  induction members with
  | nil => rfl
  | cons member rest ih => rw [lookup, Dictionary.find?, ih]

/-- Members are put in order as the entries of a dictionary are. -/
theorem insert_eq_putEntry (name : String) (value : Json) (members : Members) :
    insert name value members = Dictionary.putEntry name value members := by
  induction members with
  | nil => rfl
  | cons member rest ih =>
      obtain ⟨other, old⟩ := member
      rw [insert, Dictionary.putEntry, ih]
      by_cases same : name = other
      · rw [if_pos same, if_pos same.symm]
      · rw [if_neg same, if_neg (Ne.symm same)]
        by_cases before : name < other
        · rw [if_pos before, if_neg (String.lt_asymm before)]
        · rw [if_neg before]
          by_cases after : other < name
          · rw [if_pos after]
          · exact absurd (KeyOrder.connected before after) same

/-- Putting a value under a name changes what is under that name only. -/
theorem lookup_insert (name other : String) (value : Json) (members : Members) :
    lookup name (insert other value members) =
      if other = name then some value else lookup name members := by
  rw [insert_eq_putEntry, lookup_eq_find?, lookup_eq_find?, Dictionary.find?_putEntry]

theorem distinctMembers_iff :
    distinctMembers members = true ↔ ∀ member ∈ members, member.2.distinct = true := by
  induction members with
  | nil => simp [distinctMembers]
  | cons member rest ih => simp [distinctMembers, ih]

theorem distinct_of_lookup (distinct : distinctMembers members = true)
    (h : lookup name members = some value) : value.distinct = true := by
  induction members with
  | nil => simp [lookup] at h
  | cons member rest ih =>
      simp only [distinctMembers, Bool.and_eq_true] at distinct
      by_cases same : member.1 = name
      · rw [lookup, if_pos same, Option.some.injEq] at h
        exact h ▸ distinct.1
      · rw [lookup, if_neg same] at h
        exact ih distinct.2 h

mutual

/-- Whatever order a value was in, putting it in order leaves no name twice. -/
theorem distinct_ordered (value : Json) : value.ordered.distinct = true := by
  cases value with
  | obj members =>
      obtain ⟨ascending, within⟩ := distinct_orderedMembers members .nil rfl
      rw [ordered, distinct, Bool.and_eq_true, decide_eq_true_eq]
      refine ⟨List.pairwise_map.mpr (ascending.imp fun before same => ?_), within⟩
      exact String.lt_irrefl _ (same ▸ before)
  | _ => simp [ordered, distinct]

theorem distinct_orderedMembers (members : Members) {done : Members}
    (ascending : done.Pairwise fun a b => a.1 < b.1) (within : distinctMembers done = true) :
    (orderedMembers done members).Pairwise (fun a b => a.1 < b.1) ∧
      distinctMembers (orderedMembers done members) = true := by
  cases members with
  | nil => exact ⟨ascending, within⟩
  | cons member rest =>
      obtain ⟨name, value⟩ := member
      rw [orderedMembers, insert_eq_putEntry]
      refine distinct_orderedMembers rest (Dictionary.ascending_putEntry ascending)
        (distinctMembers_iff.mpr fun member h => ?_)
      rcases Dictionary.mem_putEntry h with rfl | h
      · exact distinct_ordered value
      · exact distinctMembers_iff.mp within member h

end

theorem follow?_cons_obj (name : String) (rest : List String) (members : Members) :
    (Json.obj members).follow? (name :: rest) = (lookup name members).bind (follow? rest) := by
  rw [follow?, member?]
  cases lookup name members <;> rfl

theorem follow?_cons_plain (plain : value.isObject = false) (name : String)
    (rest : List String) : value.follow? (name :: rest) = none := by
  cases value <;> simp_all [isObject, follow?, member?]

/-- What is on the way keeps a path from being bound. -/
theorem follow?_eq_none_of_makesWay (h : value.makesWay path = false) :
    value.follow? path = none := by
  induction path generalizing value with
  | nil => simp [makesWay] at h
  | cons name rest ih =>
      cases value with
      | obj members =>
          rw [makesWay] at h
          rw [follow?_cons_obj]
          cases found : lookup name members with
          | none => rfl
          | some inner =>
              rw [found] at h
              exact ih h
      | _ => exact follow?_cons_plain rfl name rest

/-- Making way, said of the places before the path. -/
theorem makesWay_iff : value.makesWay path = true ↔
    ∀ prior, prior <+: path → prior ≠ path → ¬value.BindsPlain prior := by
  induction path generalizing value with
  | nil => simp [makesWay]
  | cons name rest ih =>
      cases shape : value.isObject with
      | false =>
          have stuck : value.makesWay (name :: rest) = false := by
            cases value <;> simp_all [isObject, makesWay]
          rw [stuck]
          exact iff_of_false (by simp) fun clear =>
            clear [] (List.nil_prefix) (by simp) ⟨value, rfl, shape⟩
      | true =>
          obtain ⟨members, rfl⟩ := isObject_iff.mp shape
          have inside : ∀ prior, (Json.obj members).BindsPlain (name :: prior) ↔
              ∃ inner, lookup name members = some inner ∧ inner.BindsPlain prior := fun prior => by
            simp only [BindsPlain, follow?_cons_obj, Option.bind_eq_some_iff]
            exact ⟨fun ⟨found, ⟨inner, here, there⟩, plain⟩ => ⟨inner, here, found, there, plain⟩,
              fun ⟨inner, here, found, there, plain⟩ => ⟨found, ⟨inner, here, there⟩, plain⟩⟩
          have top : ¬(Json.obj members).BindsPlain [] := by simp [BindsPlain, follow?, isObject]
          have step : (Json.obj members).makesWay (name :: rest) = true ↔
              ∀ inner, lookup name members = some inner → inner.makesWay rest = true := by
            rw [makesWay]
            cases lookup name members <;> simp
          rw [step]
          constructor
          · intro clear prior before proper plain
            rcases List.prefix_cons_iff.mp before with rfl | ⟨tail, rfl, shorter⟩
            · exact top plain
            · obtain ⟨inner, found, plain⟩ := (inside tail).mp plain
              refine ih.mp (clear inner found) tail shorter (fun same => proper ?_) plain
              rw [same]
          · intro clear inner found
            refine ih.mpr fun prior before proper plain => ?_
            exact clear (name :: prior) (by simpa using before) (by simpa using proper)
              ((inside prior).mpr ⟨inner, found, plain⟩)

end Json

open Json

namespace Config

variable {name : String} {path : List String} {value below above : Json}

/-! ## One value on top of another -/

/-- What is found below, under what is found above. -/
def laidOver : Option Json → Option Json → Option Json
  | some old, some new => some (merge old new)
  | lower, none => lower
  | none, some new => some new

theorem merge_plain (plain : above.isObject = false) (below : Json) :
    merge below above = above := by
  cases above <;> simp_all [isObject, merge]

theorem merge_onto_plain (plain : below.isObject = false) (above : Json) :
    merge below above = above := by
  cases above with
  | obj members => cases below <;> simp_all [isObject, merge]
  | _ => rfl

theorem isObject_merge (below above : Json) : (merge below above).isObject = above.isObject := by
  cases above with
  | obj members => cases below <;> rfl
  | _ => rfl

/-- A name is merged on its own: taking it out and putting it back does not touch another. -/
theorem lookup_mergeMembers (name : String) (below : Members) {above : Members}
    (once : (above.map Prod.fst).Nodup) :
    lookup name (mergeMembers below above) =
      laidOver (lookup name below) (lookup name above) := by
  induction above generalizing below with
  | nil =>
      rw [mergeMembers, lookup]
      cases lookup name below <;> rfl
  | cons member rest ih =>
      obtain ⟨other, value⟩ := member
      obtain ⟨fresh, once⟩ := List.nodup_cons.mp once
      rw [mergeMembers, ih _ once, lookup_insert, lookup]
      by_cases same : other = name
      · subst same
        rw [if_pos rfl, if_pos rfl, lookup_eq_none fresh]
        cases lookup other below <;> rfl
      · rw [if_neg same, if_neg same]

/-- What a path leads to in a merged value. -/
theorem follow?_merge (distinct : above.distinct = true) :
    (merge below above).follow? path =
      if above.makesWay path then laidOver (below.follow? path) (above.follow? path)
      else none := by
  induction path generalizing below above with
  | nil => rfl
  | cons name rest ih =>
      cases shape : above.isObject with
      | false =>
          have stuck : above.makesWay (name :: rest) = false := by
            cases above <;> simp_all [isObject, makesWay]
          rw [merge_plain shape, stuck, follow?_cons_plain shape]
          rfl
      | true =>
          obtain ⟨members, rfl⟩ := isObject_iff.mp shape
          simp only [Json.distinct, Bool.and_eq_true, decide_eq_true_eq] at distinct
          obtain ⟨once, within⟩ := distinct
          -- a value on its own is what it is on top of nothing
          have alone : ∀ inner : Json, inner.follow? rest =
              if inner.makesWay rest then laidOver none (inner.follow? rest) else none := by
            intro inner
            cases way : inner.makesWay rest with
            | false => exact follow?_eq_none_of_makesWay way
            | true => cases inner.follow? rest <;> rfl
          cases base : below.isObject with
          | false =>
              rw [merge_onto_plain base, follow?_cons_plain base, follow?_cons_obj, makesWay]
              cases lookup name members with
              | none => rfl
              | some inner => exact alone inner
          | true =>
              obtain ⟨lower, rfl⟩ := isObject_iff.mp base
              simp only [merge, follow?_cons_obj, lookup_mergeMembers name lower once, makesWay]
              cases found : lookup name members with
              | none => cases lookup name lower <;> simp [laidOver]
              | some inner =>
                  cases lookup name lower with
                  | none => exact alone inner
                  | some old => exact ih (distinct_of_lookup within found)

/-- Something other than an object comes from above, or from below past a layer without it. -/
theorem follow?_merge_plain (distinct : above.distinct = true) (plain : value.isObject = false) :
    (merge below above).follow? path = some value ↔
      above.follow? path = some value ∨
        (above.follow? path = none ∧ above.makesWay path = true) ∧
          below.follow? path = some value := by
  rw [follow?_merge distinct]
  cases way : above.makesWay path with
  | false => simp [follow?_eq_none_of_makesWay way]
  | true =>
      cases upper : above.follow? path with
      | none => cases below.follow? path <;> simp [laidOver]
      | some new =>
          cases below.follow? path with
          | none => simp [laidOver]
          | some old =>
              suffices merge old new = value ↔ new = value by simpa [laidOver] using this
              cases shape : new.isObject with
              | false => rw [merge_plain shape]
              | true =>
                  have kept := isObject_merge old new
                  constructor <;> rintro rfl <;> simp_all

/-- An object comes from above, or from below past a layer that makes way. -/
theorem holdsObject_merge (distinct : above.distinct = true) :
    (merge below above).HoldsObject path ↔
      above.HoldsObject path ∨
        (¬above.BindsPlain path ∧ above.makesWay path = true) ∧ below.HoldsObject path := by
  have holds : ∀ value : Json, value.HoldsObject path ↔
      ∃ found, value.follow? path = some found ∧ found.isObject = true := fun value => by
    simp only [HoldsObject, isObject_iff]
    exact ⟨fun ⟨members, h⟩ => ⟨_, h, members, rfl⟩,
      fun ⟨_, h, members, same⟩ => ⟨members, same ▸ h⟩⟩
  rw [holds, holds, holds, follow?_merge distinct]
  unfold BindsPlain
  cases way : above.makesWay path with
  | false => simp [follow?_eq_none_of_makesWay way]
  | true =>
      cases upper : above.follow? path with
      | none => cases below.follow? path <;> simp [laidOver]
      | some new =>
          cases shape : new.isObject <;> cases below.follow? path <;>
            simp [laidOver, isObject_merge, shape]

/-! ## Layers -/

/-- A layer of the list holds, and every later one makes way. -/
def Prevails (holds yields : Json → Prop) (layers : List Json) : Prop :=
  ∃ lower layer upper, layers = lower ++ layer :: upper ∧ holds layer ∧
    ∀ later ∈ upper, yields later

variable {holds yields : Json → Prop} {layers : List Json}

theorem not_prevails_nil : ¬Prevails holds yields [] := by
  rintro ⟨lower, layer, upper, split, -⟩
  simp at split

theorem prevails_concat (last : Json) : Prevails holds yields (layers ++ [last]) ↔
    holds last ∨ yields last ∧ Prevails holds yields layers := by
  constructor
  · rintro ⟨lower, layer, upper, split, here, later⟩
    rcases List.eq_nil_or_concat upper with rfl | ⟨before, final, rfl⟩
    · obtain ⟨-, same⟩ := List.append_inj' split rfl
      exact .inl ((List.cons.inj same).1 ▸ here)
    · rw [List.concat_eq_append, ← List.cons_append, ← List.append_assoc] at split
      obtain ⟨rfl, same⟩ := List.append_inj' split rfl
      rw [List.concat_eq_append] at later
      exact .inr ⟨(List.cons.inj same).1 ▸ later final (by simp),
        lower, layer, before, rfl, here, fun one h => later one (by simp [h])⟩
  · rintro (here | ⟨way, lower, layer, upper, rfl, here, later⟩)
    · exact ⟨layers, last, [], rfl, here, by simp⟩
    · refine ⟨lower, layer, upper ++ [last], by simp, here, fun one h => ?_⟩
      rcases List.mem_append.mp h with h | h
      · exact later one h
      · exact List.mem_singleton.mp h ▸ way

theorem mergeLayers_concat (layers : List Json) (last : Json) :
    mergeLayers (layers ++ [last]) = merge (mergeLayers layers) last := by
  simp [mergeLayers]

/-- If one layer on top of what is below either holds or makes way, the last that holds counts. -/
theorem prevails_of_step (found : Json → Prop)
    (distinct : ∀ layer ∈ layers, layer.distinct = true) (empty : ¬found .null)
    (step : ∀ below above : Json, above.distinct = true →
      (found (merge below above) ↔ holds above ∨ yields above ∧ found below)) :
    found (mergeLayers layers) ↔ Prevails holds yields layers := by
  induction layers using List.reverseRecOn with
  | nil => exact iff_of_false empty not_prevails_nil
  | append_singleton layers last ih =>
      rw [mergeLayers_concat, step _ _ (distinct last (by simp)), prevails_concat,
        ih fun layer h => distinct layer (by simp [h])]

/-- **Which layer a setting comes from.**  However many layers there are, merging them leaves
something other than an object at a path exactly when some layer holds it there and no later one
binds the path at all, or binds a place before it to something other than an object.  It leaves an
object at the path exactly when some layer holds an object there and no later one binds the path,
or a place before it, to something other than an object.

That an object names its members once is true of every value that was put in order
(`distinct_ordered`), as the layers of a configuration are.  The layers need not be objects. -/
theorem mergeLayers_prevails (distinct : ∀ layer ∈ layers, layer.distinct = true)
    (proper : path ≠ []) :
    (∀ value : Json, value.isObject = false →
      ((mergeLayers layers).follow? path = some value ↔
        Prevails (fun layer => layer.follow? path = some value)
          (fun later => later.follow? path = none ∧
            ∀ prior, prior <+: path → prior ≠ path → ¬later.BindsPlain prior) layers)) ∧
    ((mergeLayers layers).HoldsObject path ↔
      Prevails (fun layer => layer.HoldsObject path)
        (fun later => ∀ prior, prior <+: path → ¬later.BindsPlain prior) layers) := by
  obtain ⟨name, rest, rfl⟩ := List.exists_cons_of_ne_nil proper
  have empty : Json.null.follow? (name :: rest) = none := follow?_cons_plain rfl name rest
  constructor
  · intro value plain
    refine prevails_of_step (fun merged => merged.follow? (name :: rest) = some value)
      distinct (by simp [empty]) fun below above once => ?_
    rw [follow?_merge_plain once plain, makesWay_iff]
  · refine prevails_of_step (fun merged => merged.HoldsObject (name :: rest)) distinct
      (by simp [HoldsObject, empty]) fun below above once => ?_
    rw [holdsObject_merge once, makesWay_iff]
    have places : (∀ prior, prior <+: name :: rest → ¬above.BindsPlain prior) ↔
        ¬above.BindsPlain (name :: rest) ∧
          ∀ prior, prior <+: name :: rest → prior ≠ name :: rest → ¬above.BindsPlain prior :=
      ⟨fun clear => ⟨clear _ List.prefix_rfl, fun prior before _ => clear prior before⟩,
        fun ⟨here, clear⟩ prior before => by
          by_cases same : prior = name :: rest
          · exact same ▸ here
          · exact clear prior before same⟩
    rw [places]

namespace Sample

/-- A table, a number in its place, an empty table in place of that, and a table again. -/
def stack : List Json :=
  [.obj [("log", .obj [("format", .str "json"), ("level", .str "info")])],
    .obj [("log", .int 5)], .obj [("log", .obj [])], .obj [("log", .obj [("level", .null)])]]

theorem mergeLayers_prevails_sample :
    (∀ layer ∈ stack, layer.distinct = true) ∧ ["log", "level"] ≠ [] ∧ ["log"] ≠ [] ∧
      (mergeLayers stack).follow? ["log", "level"] = some .null ∧
      (mergeLayers stack).HoldsObject ["log"] := by
  have distinct : ∀ layer ∈ stack, layer.distinct = true := by decide
  have inner : ["log", "level"] ≠ [] := by simp
  have outer : ["log"] ≠ [] := by simp
  have level := (mergeLayers_prevails distinct inner).1 .null rfl
  have table := (mergeLayers_prevails distinct outer).2
  refine ⟨distinct, inner, outer, level.mpr ?_, table.mpr ?_⟩
  · exact ⟨stack.take 3, _, [], rfl, rfl, by simp⟩
  · refine ⟨stack.take 2, .obj [("log", .obj [])], stack.drop 3, rfl, ⟨[], rfl⟩, ?_⟩
    intro later h prior before
    obtain rfl := List.mem_singleton.mp h
    rcases List.prefix_cons_iff.mp before with rfl | ⟨tail, rfl, shorter⟩
    · simp [BindsPlain, follow?, isObject]
    · obtain rfl := List.prefix_nil.mp shorter
      simp [BindsPlain, follow?, member?, lookup, isObject]

end Sample

end Config

end ArtifactStaging
