import RunningBalance.Proofs.Json.Record

/-!
# Trees that are read alike

Neither the order of members nor members with unknown keys make a difference to a record. Trees that
differ in nothing else, or in values that are the same to their fields, are alike (`Alike`), and
they give each field values that match (`Alike.matched`). What is said of the values of a field is
then true of both (`Matched.iff`), since it is never said of several values.
-/

set_option autoImplicit false
set_option relaxedAutoImplicit false

namespace RunningBalance.Json

/-- Trees of a record that differ at most in the order of members, in members without a field, and
in values that are the same to their fields. -/
inductive Alike (keys : List String) (same : String → Json → Json → Prop) : Json → Json → Prop
  | refl (tree : Json) : Alike keys same tree tree
  | object {members reordered members' : List (String × Json)}
      (horder : (members.filter fun member ↦ member.1 ∈ keys).Perm reordered)
      (hsame : List.Forall₂ (fun a b ↦ a.1 = b.1 ∧ same a.1 a.2 b.2) reordered
        (members'.filter fun member ↦ member.1 ∈ keys)) :
      Alike keys same (.object members) (.object members')
  | array {items items' : List Json} (hlength : items.length = items'.length)
      (hsame : ∀ (place : ℕ) key item item', keys[place]? = some key → items[place]? = some item →
        items'[place]? = some item' → same key item item') :
      Alike keys same (.array items) (.array items')

/-- Arrays that differ at most in items that are the same. -/
inductive AlikeItems (same : Json → Json → Prop) : Json → Json → Prop
  | refl (tree : Json) : AlikeItems same tree tree
  | array {items items' : List Json} (hsame : List.Forall₂ same items items') :
      AlikeItems same (.array items) (.array items')

/-- The values of a field match if there are none, or one each and these are the same; of several
values none counts. -/
inductive Matched (same : Json → Json → Prop) : List Json → List Json → Prop
  | none : Matched same [] []
  | one {json json' : Json} (hsame : same json json') : Matched same [json] [json']
  | several {values values' : List Json} (hvalues : 2 ≤ values.length)
      (hvalues' : 2 ≤ values'.length) : Matched same values values'

section Alike

variable {keys : List String} {same : String → Json → Json → Prop} {tree tree' : Json}

theorem Matched.refl {same : Json → Json → Prop} (hrefl : ∀ json, same json json)
    (values : List Json) : Matched same values values := by
  match values with
  | [] => exact .none
  | [json] => exact .one (hrefl json)
  | _ :: _ :: rest => exact .several (by simp) (by simp)

/-- Values match that are the same one by one, in another order. -/
theorem Matched.of_perm {same : Json → Json → Prop} {values reordered values' : List Json}
    (horder : values.Perm reordered) (hsame : List.Forall₂ same reordered values') :
    Matched same values values' := by
  cases hsame with
  | nil =>
    rw [horder.eq_nil]
    exact .none
  | cons hfirst hlater =>
    cases hlater with
    | nil =>
      rw [List.perm_singleton.1 horder]
      exact .one hfirst
    | cons hsecond hrest =>
      refine .several ?_ (by simp)
      rw [horder.length_eq]
      simp

/-- What is under a key of a record is not changed by leaving out all other members. -/
theorem under_filter {key : String} (hkey : key ∈ keys) (members : List (String × Json)) :
    under key (members.filter fun member ↦ member.1 ∈ keys) = under key members := by
  rw [under, under, List.filter_filter]
  refine congrArg (List.map Prod.snd) (List.filter_congr fun member _ ↦ ?_)
  by_cases h : member.1 = key
  · simp [h, hkey]
  · simp [h]

theorem forall₂_under {key : String} {members members' : List (String × Json)}
    (h : List.Forall₂ (fun a b ↦ a.1 = b.1 ∧ same a.1 a.2 b.2) members members') :
    List.Forall₂ (same key) (under key members) (under key members') := by
  induction h with
  | nil => exact .nil
  | @cons member member' members members' hsame _ ih =>
    obtain ⟨name, value⟩ := member
    obtain ⟨name', value'⟩ := member'
    obtain ⟨rfl, hvalue⟩ := hsame
    by_cases hkey : key = name
    · subst hkey
      rw [under_cons_self, under_cons_self]
      exact .cons hvalue ih
    · rw [under_cons_of_ne _ hkey, under_cons_of_ne _ hkey]
      exact ih

/-- Trees that are alike give each field values that match. -/
theorem Alike.matched (hrefl : ∀ key json, same key json json) (h : Alike keys same tree tree')
    (place : ℕ) {key : String} (hplace : keys[place]? = some key) :
    Matched (same key) (tree.valuesOf place key) (tree'.valuesOf place key) := by
  cases h with
  | refl => exact .refl (hrefl key) _
  | object horder hsame =>
    have hmem := List.mem_of_getElem? hplace
    have horder' := (horder.filter fun member ↦ member.1 = key).map Prod.snd
    have hunder : List.Forall₂ (same key) (under key _) (under key _) := forall₂_under hsame
    change (under key _).Perm _ at horder'
    rw [under_filter hmem] at horder' hunder
    exact .of_perm horder' hunder
  | @array items items' hlength hsame =>
    change Matched _ items[place]?.toList items'[place]?.toList
    cases hitem : items[place]? with
    | none =>
      rw [List.getElem?_eq_none_iff, hlength, ← List.getElem?_eq_none_iff] at hitem
      rw [hitem]
      exact .none
    | some item =>
      obtain ⟨hlt, -⟩ := List.getElem?_eq_some_iff.1 hitem
      rw [hlength] at hlt
      have hitem' := List.getElem?_eq_getElem hlt
      rw [hitem']
      exact .one (hsame place key item _ hplace hitem hitem')

/-- What is true of no two values or more is true of both of two lists that match. -/
theorem Matched.iff {same : Json → Json → Prop} {values values' : List Json}
    (h : Matched same values values') (holds : List Json → Prop)
    (hshort : ∀ values, holds values → values.length ≤ 1)
    (hone : ∀ json json', same json json' → (holds [json] ↔ holds [json'])) :
    holds values ↔ holds values' := by
  cases h with
  | none => rfl
  | one hsame => exact hone _ _ hsame
  | several hvalues hvalues' =>
    refine iff_of_false (fun h ↦ ?_) (fun h ↦ ?_)
    · exact absurd (hshort _ h) (by omega)
    · exact absurd (hshort _ h) (by omega)

theorem Matched.eq_singleton_iff {values values' : List Json} (h : Matched Eq values values')
    {json : Json} : values = [json] ↔ values' = [json] := by
  refine h.iff (· = [json]) ?_ (fun _ _ hsame ↦ by rw [hsame])
  rintro values rfl
  exact Nat.le_refl 1

theorem Matched.mayHold_iff {values values' : List Json} (h : Matched Eq values values')
    {value : Option Json} : MayHold values value ↔ MayHold values' value := by
  refine h.iff (MayHold · value) (fun values hvalues ↦ ?_) (fun _ _ hsame ↦ by rw [hsame])
  rcases hvalues with rfl | ⟨-, rfl⟩
  · cases value <;> simp
  · simp

theorem Matched.holdsList_iff {β : Type} {same : Json → Json → Prop} {spells : Json → β → Prop}
    {values values' : List Json} (h : Matched (AlikeItems same) values values')
    (hspells : ∀ json json', same json json' → ∀ x, spells json x ↔ spells json' x)
    {list : List β} : HoldsList spells values list ↔ HoldsList spells values' list := by
  refine h.iff (HoldsList spells · list) (fun values hvalues ↦ ?_) ?_
  · rcases hvalues with ⟨rfl, -⟩ | ⟨items, rfl, -⟩
    · exact Nat.zero_le 1
    · exact Nat.le_refl 1
  · rintro json json' (- | hitems)
    · rfl
    · simp only [holdsList_array_iff]
      induction hitems generalizing list with
      | nil => rfl
      | cons hsame _ ih =>
        simp only [List.forall₂_cons_left_iff, hspells _ _ hsame, ih]

theorem Alike.isRecord_iff (h : Alike keys same tree tree') {least most : ℕ} :
    tree.IsRecord least most ↔ tree'.IsRecord least most := by
  cases h with
  | refl => rfl
  | object => rfl
  | array hlength => rw [IsRecord, IsRecord, hlength]

end Alike

end RunningBalance.Json
