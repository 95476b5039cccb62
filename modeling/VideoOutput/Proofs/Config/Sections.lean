import Mathlib
import VideoOutput.Config.Toml.Section

/-!
# Tables without a key twice

A value is tidy if no table in it has a key twice. What a document does to its tables keeps them
tidy: `tidy_assign` for assignments, `tidy_openTable` and `tidy_openElement` for headers. All three
are changes at a path, so `tidy_changeAt` carries them.
-/

namespace VideoOutput

namespace Toml

inductive Value.Tidy : Value → Prop
  | boolean (b : Bool) : Tidy (.boolean b)
  | integer (n : Int) : Tidy (.integer n)
  | float (x : Float) : Tidy (.float x)
  | string (s : String) : Tidy (.string s)
  | moment (m : Moment) : Tidy (.moment m)
  | array {elements : List Value} (h : ∀ v ∈ elements, Tidy v) : Tidy (.array elements)
  | table {entries : Entries} (hkeys : (entries.map Prod.fst).Nodup)
    (h : ∀ e ∈ entries, Tidy e.2) : Tidy (.table entries)

namespace Section

theorem itemEntries_eq : ∀ items : List (String × Item),
    itemEntries items = items.map fun i => (i.1, itemValue i.2)
  | [] => rfl
  | (key, item) :: rest => by rw [itemEntries, itemEntries_eq rest, List.map_cons]

theorem elementValues_eq : ∀ l : List Section, elementValues l = l.map toValue
  | [] => rfl
  | s :: rest => by rw [elementValues, elementValues_eq rest, List.map_cons, toValue]

theorem toValue_eq (s : Section) :
    s.toValue = .table (s.items.map fun i => (i.1, itemValue i.2)) := by
  obtain ⟨implicit, dotted, items⟩ := s
  rw [toValue, sectionEntries, itemEntries_eq]
  rfl

theorem tidy_toValue {s : Section} : s.toValue.Tidy
    ↔ (s.items.map Prod.fst).Nodup ∧ ∀ i ∈ s.items, (itemValue i.2).Tidy := by
  rw [toValue_eq]
  constructor
  · rintro (_ | _ | _ | _ | _ | _ | ⟨hkeys, h⟩)
    rw [List.map_map] at hkeys
    exact ⟨hkeys, fun i hi => h _ (List.mem_map_of_mem hi)⟩
  · rintro ⟨hkeys, h⟩
    refine .table ?_ fun e he => ?_
    · rw [List.map_map]
      exact hkeys
    · obtain ⟨i, hi, rfl⟩ := List.mem_map.1 he
      exact h i hi

theorem tidy_table {s : Section} : (itemValue (.table s)).Tidy ↔ s.toValue.Tidy := Iff.rfl

theorem tidy_elements {earlier : List Section} {last : Section} :
    (itemValue (.elements earlier last)).Tidy
      ↔ (∀ s ∈ earlier, s.toValue.Tidy) ∧ last.toValue.Tidy := by
  have hvalue : itemValue (.elements earlier last)
      = .array ((earlier ++ [last]).map toValue) := by
    rw [itemValue, elementValues_eq, List.map_append]
    rfl
  rw [hvalue]
  constructor
  · rintro (_ | _ | _ | _ | _ | h | _)
    exact ⟨fun s hs => h _ (List.mem_map_of_mem (List.mem_append_left _ hs)),
      h _ (List.mem_map_of_mem (List.mem_append_right _ (List.mem_singleton_self last)))⟩
  · rintro ⟨hearlier, hlast⟩
    refine .array fun v hv => ?_
    obtain ⟨s, hs, rfl⟩ := List.mem_map.1 hv
    rcases List.mem_append.1 hs with hs | hs
    · exact hearlier s hs
    · rw [List.mem_singleton.1 hs]
      exact hlast

theorem tidy_empty (implicit dotted : Bool) : (Section.mk implicit dotted []).toValue.Tidy :=
  tidy_toValue.2 ⟨List.nodup_nil, fun _ h => absurd h List.not_mem_nil⟩

theorem mem_replace {key : String} {item : Item} {i : String × Item} :
    ∀ {items : List (String × Item)}, i ∈ replace key item items → i = (key, item) ∨ i ∈ items
  | [], h => .inl (List.mem_singleton.1 h)
  | (k, j) :: rest, h => by
    rw [replace] at h
    split_ifs at h with hk
    · rcases List.mem_cons.1 h with h | h
      · exact .inl (hk ▸ h)
      · exact .inr (List.mem_cons_of_mem _ h)
    · rcases List.mem_cons.1 h with h | h
      · exact .inr (h ▸ List.mem_cons_self ..)
      · exact (mem_replace h).imp_right (List.mem_cons_of_mem _)

theorem nodup_replace {key : String} {item : Item} :
    ∀ {items : List (String × Item)}, (items.map Prod.fst).Nodup →
      ((replace key item items).map Prod.fst).Nodup
  | [], _ => List.nodup_singleton key
  | (k, j) :: rest, h => by
    rw [List.map_cons, List.nodup_cons] at h
    rw [replace]
    split_ifs with hk
    · exact List.nodup_cons.2 h
    · refine List.nodup_cons.2 ⟨fun hmem => ?_, nodup_replace h.2⟩
      obtain ⟨i, hi, hik⟩ := List.mem_map.1 hmem
      rcases mem_replace hi with rfl | hi
      · exact hk hik.symm
      · exact h.1 (hik ▸ List.mem_map_of_mem hi)

theorem tidy_put {s : Section} {key : String} {item : Item} (hs : s.toValue.Tidy)
    (hitem : (itemValue item).Tidy) : (s.put key item).toValue.Tidy := by
  obtain ⟨hkeys, hitems⟩ := tidy_toValue.1 hs
  refine tidy_toValue.2 ⟨nodup_replace hkeys, fun i hi => ?_⟩
  rcases mem_replace hi with rfl | hi
  · exact hitem
  · exact hitems i hi

theorem tidy_of_lookup {s : Section} {key : String} {item : Item} (hs : s.toValue.Tidy)
    (h : s.items.lookup key = some item) : (itemValue item).Tidy := by
  obtain ⟨p, q, hitems, -⟩ := List.lookup_eq_some_iff.1 h
  exact (tidy_toValue.1 hs).2 (key, item) (hitems ▸ List.mem_append_right _ (List.mem_cons_self ..))

/-- A change that keeps tables tidy keeps them so wherever it is made. -/
theorem tidy_changeAt {dotted : Bool} {change : Section → Option Section}
    (hchange : ∀ {s t}, s.toValue.Tidy → change s = some t → t.toValue.Tidy) :
    ∀ {path : List String} {s t : Section}, s.toValue.Tidy →
      changeAt dotted change path s = some t → t.toValue.Tidy
  | [], _, _, hs, h => hchange hs h
  | key :: path, s, t, hs, h => by
    rw [changeAt] at h
    cases hlookup : s.items.lookup key with
    | none =>
      simp only [hlookup, Option.bind_eq_bind, Option.bind_eq_some_iff, Option.pure_def,
        Option.some.injEq] at h
      obtain ⟨child, hchild, rfl⟩ := h
      exact tidy_put hs (tidy_changeAt hchange (tidy_empty true dotted) hchild)
    | some item =>
      have hitem := tidy_of_lookup hs hlookup
      cases item with
      | value v => simp only [hlookup, reduceCtorEq] at h
      | elements earlier last =>
        simp only [hlookup, Option.bind_eq_bind, Option.bind_eq_some_iff, Option.pure_def,
          Option.some.injEq] at h
        obtain ⟨changed, hchanged, rfl⟩ := h
        obtain ⟨hearlier, hlast⟩ := tidy_elements.1 hitem
        exact tidy_put hs (tidy_elements.2 ⟨hearlier, tidy_changeAt hchange hlast hchanged⟩)
      | table child =>
        simp only [hlookup, Option.bind_eq_bind] at h
        split_ifs at h
        simp only [Option.bind_eq_some_iff, Option.pure_def, Option.some.injEq] at h
        obtain ⟨changed, hchanged, rfl⟩ := h
        exact tidy_put hs (tidy_table.2 (tidy_changeAt hchange (tidy_table.1 hitem) hchanged))

section Document

variable {path : List String} {key : String} {s t : Section}

theorem tidy_assign {value : Value} (hvalue : value.Tidy) (hs : s.toValue.Tidy)
    (h : assign path key value s = some t) : t.toValue.Tidy := by
  refine tidy_changeAt (fun {s t} hs h => ?_) hs h
  unfold assignHere at h
  split_ifs at h
  cases h
  exact tidy_put hs hvalue

theorem tidy_openTable (hs : s.toValue.Tidy) (h : openTable path key s = some t) :
    t.toValue.Tidy := by
  refine tidy_changeAt (fun {s t} hs h => ?_) hs h
  split at h
  · cases h
    exact tidy_put hs (tidy_empty false false)
  · rename_i child hlookup
    split_ifs at h
    cases h
    have hchild := tidy_toValue.1 (tidy_table.1 (tidy_of_lookup hs hlookup))
    exact tidy_put hs (tidy_table.2 (tidy_toValue.2 hchild))
  · cases h

theorem tidy_openElement (hs : s.toValue.Tidy) (h : openElement path key s = some t) :
    t.toValue.Tidy := by
  refine tidy_changeAt (fun {s t} hs h => ?_) hs h
  split at h
  · cases h
    exact tidy_put hs
      (tidy_elements.2 ⟨fun _ h => absurd h List.not_mem_nil, tidy_empty false false⟩)
  · rename_i earlier last hlookup
    cases h
    obtain ⟨hearlier, hlast⟩ := tidy_elements.1 (tidy_of_lookup hs hlookup)
    refine tidy_put hs (tidy_elements.2 ⟨fun u hu => ?_, tidy_empty false false⟩)
    rcases List.mem_append.1 hu with hu | hu
    · exact hearlier u hu
    · rw [List.mem_singleton.1 hu]
      exact hlast
  · cases h

end Document

end Section

end Toml

end VideoOutput
