/-
Named values.  A name has at most one value, and the entries stand in the order
of their names, so two collections that answer every name alike are equal.
-/
import Commonplace.Text

namespace Commonplace

/-- Values by name, in the order of the names. -/
structure Fields where
  entries : List (Text × Text)
  ordered : entries.Pairwise fun first second => first.1 < second.1
deriving DecidableEq

namespace Fields

theorem lt_of_not_lt_of_ne {first second : Text} (hlt : ¬ first < second)
    (hne : first ≠ second) : second < first :=
  Decidable.byContradiction fun hback =>
    hne (List.le_antisymm (List.not_lt.1 hback) (List.not_lt.1 hlt))

/-- Puts a value under a name into ordered entries, in place of an earlier
value. -/
def place (name value : Text) : List (Text × Text) → List (Text × Text)
  | [] => [(name, value)]
  | entry :: rest =>
    if name < entry.1 then (name, value) :: entry :: rest
    else if name = entry.1 then (name, value) :: rest
    else entry :: place name value rest

theorem name_of_mem_place {name value : Text} {entries : List (Text × Text)}
    {entry : Text × Text} (hmem : entry ∈ place name value entries) :
    entry.1 = name ∨ entry ∈ entries := by
  induction entries with
  | nil => simp_all [place]
  | cons head rest ih =>
    rw [place] at hmem
    split at hmem
    · rcases List.mem_cons.1 hmem with rfl | hmem
      · exact Or.inl rfl
      · exact Or.inr hmem
    · split at hmem
      · rcases List.mem_cons.1 hmem with rfl | hmem
        · exact Or.inl rfl
        · exact Or.inr (List.mem_cons_of_mem _ hmem)
      · rcases List.mem_cons.1 hmem with rfl | hmem
        · exact Or.inr List.mem_cons_self
        · exact (ih hmem).imp_right (List.mem_cons_of_mem _)

theorem place_ordered (name value : Text) {entries : List (Text × Text)}
    (hordered : entries.Pairwise fun first second => first.1 < second.1) :
    (place name value entries).Pairwise fun first second => first.1 < second.1 := by
  induction entries with
  | nil => simp [place]
  | cons head rest ih =>
    obtain ⟨hhead, hrest⟩ := List.pairwise_cons.1 hordered
    rw [place]
    split
    · next hlt =>
      refine List.pairwise_cons.2 ⟨?_, hordered⟩
      intro entry hmem
      rcases List.mem_cons.1 hmem with rfl | hmem
      · exact hlt
      · exact List.lt_trans hlt (hhead entry hmem)
    · next hlt =>
      split
      · next heq =>
        refine List.pairwise_cons.2 ⟨?_, hrest⟩
        intro entry hmem
        exact heq ▸ hhead entry hmem
      · next hne =>
        refine List.pairwise_cons.2 ⟨?_, ih hrest⟩
        intro entry hmem
        rcases name_of_mem_place hmem with hname | hmem
        · exact hname ▸ lt_of_not_lt_of_ne hlt hne
        · exact hhead entry hmem

/-- No names. -/
def empty : Fields := ⟨[], List.Pairwise.nil⟩

/-- The later value of a name replaces the earlier one. -/
def insert (fields : Fields) (name value : Text) : Fields :=
  ⟨place name value fields.entries, place_ordered name value fields.ordered⟩

/-- Entries put in one after the other. -/
def ofList (entries : List (Text × Text)) : Fields :=
  entries.foldl (fun fields entry => fields.insert entry.1 entry.2) empty

def get? (fields : Fields) (name : Text) : Option Text := fields.entries.lookup name

@[simp]
theorem get?_empty (name : Text) : empty.get? name = none := rfl

theorem lookup_entry (name : Text) (entry : Text × Text) (rest : List (Text × Text)) :
    (entry :: rest).lookup name =
      if name = entry.1 then some entry.2 else rest.lookup name := by
  obtain ⟨key, value⟩ := entry
  by_cases h : name = key
  · simp [h]
  · have hbeq : (name == key) = false := by simpa using h
    simp [List.lookup_cons, hbeq, h]

theorem lookup_place (name value other : Text) (entries : List (Text × Text)) :
    (place name value entries).lookup other =
      if other = name then some value else entries.lookup other := by
  induction entries with
  | nil => simp [place]
  | cons head rest ih =>
    rw [place]
    split
    · simp [lookup_entry]
    · split
      · next heq => by_cases h : other = name <;> simp_all [lookup_entry]
      · next hne =>
        rw [lookup_entry, lookup_entry, ih]
        by_cases h : other = head.1
        · have hother : other ≠ name := fun hname => hne (hname ▸ h)
          simp [h, h ▸ hother]
        · simp [h]

/-- A name answers with the value last put under it. -/
theorem get?_insert (fields : Fields) (name value other : Text) :
    (fields.insert name value).get? other =
      if other = name then some value else fields.get? other :=
  lookup_place name value other fields.entries

theorem lookup_eq_none_of_lt {name : Text} {entries : List (Text × Text)}
    (hlt : ∀ entry ∈ entries, name < entry.1) : entries.lookup name = none := by
  induction entries with
  | nil => rfl
  | cons head rest ih =>
    have hne : name ≠ head.1 := fun heq =>
      List.lt_irrefl head.1 (heq ▸ hlt head List.mem_cons_self)
    rw [lookup_entry, ih fun entry hmem => hlt entry (List.mem_cons_of_mem _ hmem)]
    simp [hne]

theorem entries_eq_of_lookup_eq {left right : List (Text × Text)}
    (hleft : left.Pairwise fun first second => first.1 < second.1)
    (hright : right.Pairwise fun first second => first.1 < second.1)
    (hlookup : ∀ name, left.lookup name = right.lookup name) : left = right := by
  induction left generalizing right with
  | nil =>
    cases right with
    | nil => rfl
    | cons second right =>
      have hsecond := hlookup second.1
      simp [lookup_entry] at hsecond
  | cons first left ih =>
    cases right with
    | nil =>
      have hfirst := hlookup first.1
      simp [lookup_entry] at hfirst
    | cons second right =>
      obtain ⟨hfirst, hleftTail⟩ := List.pairwise_cons.1 hleft
      obtain ⟨hsecond, hrightTail⟩ := List.pairwise_cons.1 hright
      have hname : first.1 = second.1 := by
        apply List.le_antisymm
        · refine List.not_lt.1 fun hlt => ?_
          have hnone : (first :: left).lookup second.1 = none := by
            refine lookup_eq_none_of_lt fun entry hmem => ?_
            rcases List.mem_cons.1 hmem with rfl | hmem
            · exact hlt
            · exact List.lt_trans hlt (hfirst entry hmem)
          rw [hlookup] at hnone
          simp [lookup_entry] at hnone
        · refine List.not_lt.1 fun hlt => ?_
          have hnone : (second :: right).lookup first.1 = none := by
            refine lookup_eq_none_of_lt fun entry hmem => ?_
            rcases List.mem_cons.1 hmem with rfl | hmem
            · exact hlt
            · exact List.lt_trans hlt (hsecond entry hmem)
          rw [← hlookup] at hnone
          simp [lookup_entry] at hnone
      have hvalue : first.2 = second.2 := by
        have hsame := hlookup first.1
        simpa [lookup_entry, hname] using hsame
      have hhead : first = second := Prod.ext hname hvalue
      subst hhead
      refine congrArg _ (ih hleftTail hrightTail fun name => ?_)
      by_cases heq : name = first.1
      · rw [heq, lookup_eq_none_of_lt hfirst, lookup_eq_none_of_lt hsecond]
      · have hsame := hlookup name
        simpa [lookup_entry, heq] using hsame

/-- Collections that answer every name alike are equal. -/
@[ext]
theorem ext {left right : Fields} (hget : ∀ name, left.get? name = right.get? name) :
    left = right := by
  cases left with
  | mk left hleft =>
    cases right with
    | mk right hright =>
      have hentries := entries_eq_of_lookup_eq hleft hright hget
      subst hentries
      rfl

end Fields

end Commonplace
