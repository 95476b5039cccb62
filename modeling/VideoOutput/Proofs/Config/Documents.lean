import VideoOutput.Config.Toml.Document
import VideoOutput.Proofs.Config.Sections

/-!
# What a document describes

Whatever a text is that reads as a document, no table in the document has a key twice
(`tidy_of_document`). The property goes through the readers by one rule for each way to put readers
together; of the text itself nothing is used.
-/

namespace VideoOutput

namespace Toml

namespace Reader

variable {α β : Type}

/-- Whatever the reader reads has the property. -/
def Yields (P : α → Prop) (r : Reader α) : Prop := ∀ text a rest, r text = some (a, rest) → P a

namespace Yields

variable {P : α → Prop} {r r' : Reader α}

protected theorem pure {a : α} (h : P a) : Yields P (pure a : Reader α) := by
  intro text b rest hb
  cases hb
  exact h

protected theorem failure : Yields P (failure : Reader α) := by
  intro text a rest h
  cases h

protected theorem bind {Q : β → Prop} {r : Reader β} {f : β → Reader α} (h : Yields Q r)
    (hf : ∀ b, Q b → Yields P (f b)) : Yields P (r >>= f) := by
  intro text a rest ha
  obtain ⟨⟨b, text'⟩, hb, ha⟩ := Option.bind_eq_some_iff.1 ha
  exact hf b (h text b text' hb) text' a rest ha

theorem any (r : Reader α) : Yields (fun _ => True) r := fun _ _ _ _ => trivial

/-- Only what comes last in a sequence is read. -/
theorem last {r : Reader β} {f : β → Reader α} (hf : ∀ b, Yields P (f b)) : Yields P (r >>= f) :=
  (any r).bind fun b _ => hf b

theorem orElse (h : Yields P r) (h' : Yields P r') : Yields P (r <|> r') := by
  intro text a rest ha
  have hor : (r <|> r') text = (r text <|> r' text) := rfl
  rw [hor] at ha
  rcases hr : r text with _ | ⟨b, text'⟩
  · rw [hr] at ha
    exact h' text a rest ha
  · rw [hr] at ha
    cases ha
    exact h text a rest hr

theorem optional (h : Yields P r) : Yields (∀ a ∈ ·, P a) (Reader.optional r) := by
  intro text o rest ho
  unfold Reader.optional at ho
  rcases hr : r text with _ | ⟨a, text'⟩
  · rw [hr] at ho
    cases ho
    exact fun a ha => absurd ha (Option.not_mem_none a)
  · rw [hr] at ho
    cases ho
    intro b hb
    rw [← Option.mem_some.1 hb]
    exact h text a _ hr

theorem upTo (h : Yields P r) : ∀ fuel, Yields (∀ a ∈ ·, P a) (Reader.upTo r fuel)
  | 0 => .pure fun _ ha => absurd ha List.not_mem_nil
  | fuel + 1 => by
    refine h.optional.bind fun o ho => ?_
    cases o with
    | none => exact .pure fun _ ha => absurd ha List.not_mem_nil
    | some a =>
      exact (upTo h fuel).bind fun l hl => .pure (List.forall_mem_cons.2 ⟨ho a rfl, hl⟩)

theorem many (h : Yields P r) : Yields (∀ a ∈ ·, P a) (Reader.many r) :=
  last fun _ => h.upTo _

theorem separated (h : Yields P r) (separator : Char) :
    Yields (∀ a ∈ ·, P a) (Reader.separated r separator) := by
  refine h.optional.bind fun o ho => ?_
  cases o with
  | none => exact .pure fun _ ha => absurd ha List.not_mem_nil
  | some a =>
    exact (many (last fun _ => h)).bind fun l hl => .pure (List.forall_mem_cons.2 ⟨ho a rfl, hl⟩)

end Yields

theorem tidy_scalar : Yields Value.Tidy scalar := by
  refine .last fun c => ?_
  cases c with
  | none => exact .failure
  | some c =>
    dsimp only
    split_ifs
    · exact .last fun s => .pure (.string s)
    · exact .orElse (.last fun m => .pure (.moment m))
        (.orElse (.last fun x => .pure (.float x)) (.last fun n => .pure (.integer n)))
    · exact .last fun b => .pure (.boolean b)
    · exact .last fun x => .pure (.float x)
    · exact .failure

theorem tidy_assignAll : ∀ {pairs : List ((List String × String) × Value)} {s t : Section},
    (∀ p ∈ pairs, p.2.Tidy) → s.toValue.Tidy →
      pairs.foldlM (fun s (key, value) => s.assign key.1 key.2 value) s = some t → t.toValue.Tidy
  | [], s, t, _, hs, h => by
    cases h
    exact hs
  | p :: pairs, s, t, hpairs, hs, h => by
    rw [List.foldlM_cons] at h
    obtain ⟨u, hu, h⟩ := Option.bind_eq_some_iff.1 h
    obtain ⟨hp, hpairs⟩ := List.forall_mem_cons.1 hpairs
    exact tidy_assignAll hpairs (Section.tidy_assign hp hs hu) h

section Nested

variable {element : Reader Value}

theorem tidy_array (h : Yields Value.Tidy element) : Yields Value.Tidy (array element) := by
  refine .last fun _ => ?_
  refine (Yields.separated (.last fun _ => h.bind fun v hv => .last fun _ => .pure hv) ',').bind
    fun elements helements => ?_
  have hend : Yields Value.Tidy (do gap; char ']'; return .array elements) :=
    .last fun _ => .last fun _ => .pure (.array helements)
  dsimp only
  split_ifs
  · exact .last fun _ => hend
  · exact hend

theorem tidy_inlineTable (h : Yields Value.Tidy element) :
    Yields Value.Tidy (inlineTable element) := by
  have hpair : Yields (fun pair : (List String × String) × Value => pair.2.Tidy) (do
      let key ← key
      char '='
      blanks
      let v ← element
      blanks
      return (key, v)) :=
    .last fun key => .last fun _ => .last fun _ => h.bind fun v hv => .last fun _ => .pure hv
  refine .last fun _ => (hpair.separated ',').bind fun pairs hpairs =>
    .last fun _ => .last fun _ => ?_
  cases hassign : assignAll pairs with
  | none => exact .failure
  | some s => exact .pure (tidy_assignAll hpairs (Section.tidy_empty false false) hassign)

end Nested

theorem tidy_value : ∀ depth, Yields Value.Tidy (value depth)
  | 0 => tidy_scalar
  | depth + 1 =>
    .orElse (tidy_array (tidy_value depth))
      (.orElse (tidy_inlineTable (tidy_value depth)) tidy_scalar)

section Lines

variable {d : Draft}

theorem tidy_header (hd : d.root.toValue.Tidy) :
    Yields (fun d => d.root.toValue.Tidy) (header d) := by
  refine .last fun _ => .last fun bracket => .last fun key => .last fun _ => ?_
  dsimp only
  split_ifs
  · refine .last fun _ => .last fun _ => ?_
    cases hopened : d.root.openElement key.1 key.2 with
    | none => exact .failure
    | some root => exact .pure (Section.tidy_openElement hd hopened)
  · refine .last fun _ => ?_
    cases hopened : d.root.openTable key.1 key.2 with
    | none => exact .failure
    | some root => exact .pure (Section.tidy_openTable hd hopened)

theorem tidy_assignment (hd : d.root.toValue.Tidy) :
    Yields (fun d => d.root.toValue.Tidy) (assignment d) := by
  refine .last fun key => .last fun _ => .last fun _ => (tidy_value _).bind fun v hv =>
    .last fun _ => ?_
  cases hchanged : d.change (Section.assign key.1 key.2 v) with
  | none => exact .failure
  | some changed =>
    obtain ⟨root, hroot, rfl⟩ := Option.map_eq_some_iff.1 hchanged
    exact .pure (Section.tidy_changeAt (Section.tidy_assign hv) hd hroot)

theorem tidy_line (hd : d.root.toValue.Tidy) :
    Yields (fun d => d.root.toValue.Tidy) (line d) := by
  refine .last fun c => ?_
  split
  · exact .last fun _ => .last fun _ => .pure hd
  · exact tidy_header hd
  · exact .last fun _ => .pure hd
  · exact .last fun _ => .pure hd
  · exact tidy_assignment hd

theorem tidy_lines : ∀ (fuel : Nat) {d : Draft}, d.root.toValue.Tidy →
    Yields (fun d => d.root.toValue.Tidy) (lines fuel d)
  | 0, _, _ => .failure
  | fuel + 1, d, hd => by
    refine .last fun _ => .last fun text => ?_
    split_ifs
    · exact .pure hd
    · exact (tidy_line hd).bind fun d' hd' => tidy_lines fuel hd'

end Lines

end Reader

/-- A document is a table, and no table in it has a key twice. -/
theorem tidy_of_document {text : List Char} {v : Value} (h : document? text = some v) :
    v.Tidy ∧ ∃ entries, v = .table entries := by
  obtain ⟨d, hd, rfl⟩ := Option.map_eq_some_iff.1 h
  refine ⟨?_, _, rfl⟩
  unfold Reader.all at hd
  split at hd
  · rename_i d' hlines
    cases hd
    exact Reader.tidy_lines _ (Section.tidy_empty false false) _ _ _ hlines
  · cases hd

end Toml

end VideoOutput
