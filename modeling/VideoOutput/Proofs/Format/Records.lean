import Mathlib
import VideoOutput.Format.Table

/-!
# Reading and writing format tables

A table is its records one after another, and its padding carries nothing: whatever word pads each
record, `parse` reads the entries that were written, and every table that can be read is what
writing its entries around its own padding gives (`parse_round_trip`). The records are followed one
at a time, from the front (`entries_append`, `paddings_append`).
-/

namespace VideoOutput

theorem length_littleEndianBytes : ∀ count n, (littleEndianBytes count n).length = count
  | 0, _ => rfl
  | count + 1, n => by simp [littleEndianBytes, length_littleEndianBytes count]

theorem littleEndian_littleEndianBytes :
    ∀ count n, littleEndian (littleEndianBytes count n) = n % 256 ^ count
  | 0, n => by simp [littleEndianBytes, littleEndian, Nat.mod_one]
  | count + 1, n => by
    simp [littleEndianBytes, littleEndian, littleEndian_littleEndianBytes count, pow_succ',
      Nat.mod_mul]

theorem littleEndian_lt : ∀ bytes : List UInt8, littleEndian bytes < 256 ^ bytes.length
  | [] => by simp [littleEndian]
  | b :: rest => by
    have hb := b.toNat_lt
    have hrest := littleEndian_lt rest
    simp only [littleEndian, List.length_cons, pow_succ']
    omega

theorem littleEndianBytes_littleEndian :
    ∀ bytes : List UInt8, littleEndianBytes bytes.length (littleEndian bytes) = bytes
  | [] => rfl
  | b :: rest => by
    have hb := b.toNat_lt
    have hdiv : (b.toNat + 256 * littleEndian rest) / 256 = littleEndian rest := by omega
    simp only [littleEndian, List.length_cons, littleEndianBytes, hdiv,
      littleEndianBytes_littleEndian rest, List.cons.injEq, and_true]
    apply UInt8.toNat_inj.1
    simp

theorem littleEndianBytes_word {bytes : List UInt8} (h : bytes.length = 4) :
    littleEndianBytes 4 (UInt32.ofNat (littleEndian bytes)).toNat = bytes := by
  have hlt := littleEndian_lt bytes
  rw [h] at hlt
  rw [UInt32.toNat_ofNat_of_lt' hlt, ← h, littleEndianBytes_littleEndian]

theorem littleEndianBytes_longWord {bytes : List UInt8} (h : bytes.length = 8) :
    littleEndianBytes 8 (UInt64.ofNat (littleEndian bytes)).toNat = bytes := by
  have hlt := littleEndian_lt bytes
  rw [h] at hlt
  rw [UInt64.toNat_ofNat_of_lt' hlt, ← h, littleEndianBytes_littleEndian]

theorem word_littleEndianBytes (n : UInt32) :
    UInt32.ofNat (littleEndian (littleEndianBytes 4 n.toNat)) = n := by
  have hlt : n.toNat < 256 ^ 4 := n.toNat_lt
  rw [littleEndian_littleEndianBytes, Nat.mod_eq_of_lt hlt, UInt32.ofNat_toNat]

theorem longWord_littleEndianBytes (n : UInt64) :
    UInt64.ofNat (littleEndian (littleEndianBytes 8 n.toNat)) = n := by
  have hlt : n.toNat < 256 ^ 8 := n.toNat_lt
  rw [littleEndian_littleEndianBytes, Nat.mod_eq_of_lt hlt, UInt64.ofNat_toNat]

namespace FormatTable

/-- The word between the format and the modifier of a record. -/
def paddingOfRecord (record : List UInt8) : UInt32 := .ofNat (littleEndian ((record.drop 4).take 4))

/-- The padding of every record of a table, in order. -/
def paddings (bytes : List UInt8) : List UInt32 :=
  (List.range (bytes.length / 16)).map fun k => paddingOfRecord (bytes.drop (16 * k))

/-- The table of the entries, each padded with its word. -/
def encode (records : List (FormatEntry × UInt32)) : List UInt8 :=
  records.flatMap fun r => recordOfEntry r.1 (littleEndianBytes 4 r.2.toNat)

variable {bytes record rest : List UInt8}

/-! ## One record -/

theorem length_recordOfEntry (e : FormatEntry) (padding : UInt32) :
    (recordOfEntry e (littleEndianBytes 4 padding.toNat)).length = 16 := by
  simp [recordOfEntry, FourCc.bytes, length_littleEndianBytes]

theorem entryOfRecord_parts {format padding modifier : List UInt8} (hformat : format.length = 4)
    (hpadding : padding.length = 4) (hmodifier : modifier.length = 8) :
    entryOfRecord (format ++ padding ++ modifier)
        = ⟨.ofBytes format, UInt64.ofNat (littleEndian modifier)⟩
      ∧ paddingOfRecord (format ++ padding ++ modifier) = UInt32.ofNat (littleEndian padding) := by
  have hlate : (format ++ padding).length = 8 := by simp [hformat, hpadding]
  unfold entryOfRecord paddingOfRecord
  constructor
  · rw [List.drop_left' hlate, List.take_of_length_le hmodifier.le, List.append_assoc,
      List.take_left' hformat]
  · rw [List.append_assoc, List.drop_left' hformat, List.take_left' hpadding]

theorem entryOfRecord_recordOfEntry (e : FormatEntry) (padding : UInt32) :
    entryOfRecord (recordOfEntry e (littleEndianBytes 4 padding.toNat)) = e := by
  obtain ⟨hentry, -⟩ := entryOfRecord_parts (length_littleEndianBytes 4 e.format.code.toNat)
    (length_littleEndianBytes 4 padding.toNat) (length_littleEndianBytes 8 e.modifier.toNat)
  rw [recordOfEntry, FourCc.bytes, hentry, FourCc.ofBytes, word_littleEndianBytes,
    longWord_littleEndianBytes]

theorem recordOfEntry_entryOfRecord (h : record.length = 16) :
    recordOfEntry (entryOfRecord record) (littleEndianBytes 4 (paddingOfRecord record).toNat)
      = record := by
  obtain ⟨format, padding, modifier, rfl, hformat, hpadding, hmodifier⟩ :
      ∃ format padding modifier, record = format ++ padding ++ modifier
        ∧ format.length = 4 ∧ padding.length = 4 ∧ modifier.length = 8 := by
    refine ⟨record.take 4, (record.drop 4).take 4, record.drop 8, ?_, by simp [h], by simp [h],
      by simp [h]⟩
    rw [← List.take_add, List.take_append_drop]
  obtain ⟨hentry, hword⟩ := entryOfRecord_parts hformat hpadding hmodifier
  rw [hentry, hword, recordOfEntry, FourCc.bytes, FourCc.ofBytes, littleEndianBytes_word hformat,
    littleEndianBytes_word hpadding, littleEndianBytes_longWord hmodifier]

theorem entries_append (h : record.length = 16) :
    entries (record ++ rest) = entryOfRecord record :: entries rest := by
  rw [entries]
  simp [recordSize, h]

theorem paddings_append (h : record.length = 16) :
    paddings (record ++ rest) = paddingOfRecord record :: paddings rest := by
  have hcount : (record ++ rest).length / 16 = rest.length / 16 + 1 := by
    rw [List.length_append]
    omega
  have hlater : ∀ k, (record ++ rest).drop (16 * (k + 1)) = rest.drop (16 * k) := by
    intro k
    rw [Nat.mul_succ, Nat.add_comm, ← List.drop_drop, List.drop_left' h]
  have hfirst : paddingOfRecord (record ++ rest) = paddingOfRecord record := by
    simp [paddingOfRecord, List.drop_append, List.take_append, h]
  rw [paddings, hcount, List.range_succ_eq_map, List.map_cons, Nat.mul_zero, List.drop_zero, hfirst,
    List.map_map]
  simp [paddings, Function.comp_def, hlater]

/-! ## Whole tables -/

theorem entries_encode : ∀ records : List (FormatEntry × UInt32),
    entries (encode records) = records.map Prod.fst
  | [] => by simp [encode, entries, recordSize]
  | (e, padding) :: records => by
    rw [encode, List.flatMap_cons, entries_append (length_recordOfEntry e padding),
      entryOfRecord_recordOfEntry, List.map_cons, ← entries_encode records, encode]

theorem length_encode (records : List (FormatEntry × UInt32)) :
    (encode records).length = 16 * records.length := by
  simp [encode, length_recordOfEntry, Nat.mul_comm]

theorem parse_encode (records : List (FormatEntry × UInt32)) :
    parse (encode records) = .ok (records.map Prod.fst) := by
  simp [parse, recordSize, length_encode, entries_encode]

/-- By the number of records. -/
theorem encode_entries : ∀ {n : Nat} {bytes : List UInt8}, bytes.length = 16 * n →
    (entries bytes).length = n ∧ encode ((entries bytes).zip (paddings bytes)) = bytes
  | 0, bytes, h => by
    obtain rfl := List.length_eq_zero_iff.1 h
    simp [entries, recordSize, encode]
  | n + 1, bytes, h => by
    obtain ⟨record, rest, rfl, hrecord⟩ : ∃ record rest, bytes = record ++ rest
        ∧ record.length = 16 :=
      ⟨bytes.take 16, bytes.drop 16, (List.take_append_drop 16 bytes).symm, by simp; omega⟩
    rw [List.length_append, hrecord] at h
    have hrest : rest.length = 16 * n := by omega
    obtain ⟨hlength, hencode⟩ := encode_entries hrest
    rw [entries_append hrecord, paddings_append hrecord]
    refine ⟨by simp [hlength], ?_⟩
    rw [List.zip_cons_cons, encode, List.flatMap_cons, ← encode, hencode]
    rw [recordOfEntry_entryOfRecord hrecord]

/-- What is written is read back, whatever the padding. The tables that can be read are those of
whole records, and each is its entries written around its own padding; any other is refused with
its size. -/
theorem parse_round_trip :
    (∀ records : List (FormatEntry × UInt32), (encode records).length = 16 * records.length
      ∧ parse (encode records) = .ok (records.map Prod.fst))
    ∧ ∀ bytes : List UInt8, ((∃ es, parse bytes = .ok es) ↔ 16 ∣ bytes.length)
      ∧ (∀ es, parse bytes = .ok es ↔ 16 ∣ bytes.length ∧ es.length = bytes.length / 16
        ∧ encode (es.zip (paddings bytes)) = bytes)
      ∧ ∀ refusal, parse bytes = .error refusal ↔
        ¬ 16 ∣ bytes.length ∧ refusal = .truncated bytes.length := by
  refine ⟨fun records => ⟨length_encode records, parse_encode records⟩, fun bytes => ?_⟩
  by_cases h : 16 ∣ bytes.length
  · have hwhole : bytes.length = 16 * (bytes.length / 16) := by omega
    obtain ⟨hlength, hencode⟩ := encode_entries hwhole
    have hparse : parse bytes = .ok (entries bytes) := if_pos (Nat.mod_eq_zero_of_dvd h)
    refine ⟨by simp [hparse, h], fun es => ⟨?_, ?_⟩, by simp [hparse, h]⟩
    · intro hes
      obtain rfl : entries bytes = es := Except.ok.inj (hparse.symm.trans hes)
      exact ⟨h, hlength, hencode⟩
    · rintro ⟨-, hes, hbytes⟩
      have hzip : es.length = (paddings bytes).length := by simp [paddings, hes]
      rw [← hbytes, parse_encode, List.map_fst_zip hzip.le]
  · have hparse : parse bytes = .error (.truncated bytes.length) :=
      if_neg (mt Nat.dvd_of_mod_eq_zero h)
    simp [hparse, h, eq_comm]

end FormatTable

end VideoOutput
