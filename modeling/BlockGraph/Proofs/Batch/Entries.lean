import BlockGraph.Batch.Cache
import Mathlib.Tactic.Ring

namespace BlockGraph

namespace Utf8

/-- A byte below `0x80` is a character of its own. -/
theorem lead_of_lt {b : UInt8} (hb : b.toNat < 0x80) (rest : List UInt8) :
    lead b rest = (Char.ofNat b.toNat, 0) := by
  have h2 : ¬ 0xC2 ≤ b.toNat := by omega
  have h3 : ¬ 0xE0 ≤ b.toNat := by omega
  have h4 : ¬ 0xF0 ≤ b.toNat := by omega
  unfold lead
  rcases rest with _ | ⟨b1, _ | ⟨b2, _ | ⟨b3, tl⟩⟩⟩ <;> simp [hb, h2, h3, h4]

theorem keepChar_of_ascii : ∀ n < 0x80, keepChar (Char.ofNat n) = [Char.ofNat n] := by
  decide

/-- Bytes below `0x80` are read one character each. -/
theorem decodeKeeping_of_ascii : ∀ {bs : List UInt8}, (∀ b ∈ bs, b.toNat < 0x80) →
    decodeKeeping bs = bs.map fun b => Char.ofNat b.toNat
  | [], _ => by simp [decodeKeeping]
  | b :: tl, h => by
    have hb : b.toNat < 0x80 := h b (List.mem_cons_self ..)
    have hnot : ¬ (0x80 : UInt8) ≤ b := fun hle => absurd (UInt8.le_iff_toNat_le.1 hle) (by simpa using hb)
    rw [decodeKeeping, lead_of_lt hb]
    simp only [List.drop_zero, hnot, and_false, if_false, keepChar_of_ascii _ hb]
    rw [decodeKeeping_of_ascii (fun x hx => h x (List.mem_cons_of_mem _ hx))]
    rfl

end Utf8

namespace Msgpack

theorem length_bigEndian (n v : Nat) : (bigEndian n v).length = n := by
  induction n with
  | zero => rfl
  | succ n ih => simp [bigEndian, ih]

theorem foldl_bigEndian (n v acc : Nat) :
    (bigEndian n v).foldl (fun acc b => acc * 256 + b.toNat) acc = acc * Nat.pow 256 n + v % Nat.pow 256 n := by
  induction n generalizing acc with
  | zero => simp [bigEndian, Nat.mod_one]
  | succ n ih =>
    simp only [bigEndian, List.foldl_cons, ih]
    have hdigit : (UInt8.ofNat (v / Nat.pow 256 n % 256)).toNat = v / Nat.pow 256 n % 256 := by
      rw [UInt8.toNat_ofNat']
      exact Nat.mod_eq_of_lt (Nat.lt_of_lt_of_le (Nat.mod_lt _ (by decide)) (by decide))
    have hmod : v % Nat.pow 256 (n + 1) = v % Nat.pow 256 n + Nat.pow 256 n * (v / Nat.pow 256 n % 256) :=
      Nat.mod_pow_succ
    have hpow : Nat.pow 256 (n + 1) = Nat.pow 256 n * 256 := rfl
    rw [hdigit, hmod, hpow]
    ring

theorem ofBigEndian_bigEndian (n v : Nat) : ofBigEndian (bigEndian n v) = v % Nat.pow 256 n := by
  simpa [ofBigEndian] using foldl_bigEndian n v 0

theorem takeExactly_append {n : Nat} {bs rest : List UInt8} (h : bs.length = n) :
    takeExactly n (bs ++ rest) = some (bs, rest) := by
  subst h
  simp [takeExactly]

theorem readNumber_bigEndian (n v : Nat) (rest : List UInt8) :
    readNumber n (bigEndian n v ++ rest) = some (v % Nat.pow 256 n, rest) := by
  simp [readNumber, takeExactly_append (length_bigEndian n v), ofBigEndian_bigEndian]

theorem readValue_word (f v : Nat) (rest : List UInt8) :
    readValue (f + 1) (encodeWord v ++ rest) = some (.integer (v % Nat.pow 256 4 : Nat), rest) := by
  simp [encodeWord, readValue, readNumber_bigEndian]

theorem readBytes_bigEndian (k : Nat) (bs rest : List UInt8) (h : bs.length < Nat.pow 256 k) :
    readBytes k (bigEndian k bs.length ++ (bs ++ rest)) = some (bs, rest) := by
  simp only [readBytes, readNumber_bigEndian, Nat.mod_eq_of_lt h]
  exact takeExactly_append rfl

theorem readValue_string (f : Nat) {bs : List UInt8} (h : bs.length < Nat.pow 2 32) (rest : List UInt8) :
    readValue (f + 1) (encodeString bs ++ rest) = some (.bytes bs, rest) := by
  unfold encodeString stringHeader
  split
  · rename_i h32
    have hc : (UInt8.ofNat (0xA0 + bs.length)).toNat = 0xA0 + bs.length := by
      rw [UInt8.toNat_ofNat']
      exact Nat.mod_eq_of_lt (by omega)
    simp only [List.cons_append, readValue, hc]
    rw [if_neg (by omega), if_neg (by omega), if_neg (by omega), if_pos (by omega)]
    simp [takeExactly_append]
  · split
    · rename_i h256
      have hc : bigEndian 1 bs.length = [UInt8.ofNat bs.length] := by
        simp [bigEndian, Nat.mod_eq_of_lt h256]
      have hr := readBytes_bigEndian 1 bs rest (by simpa using h256)
      rw [hc, List.singleton_append] at hr
      simp [readValue, hr]
    · split
      · rename_i _ h65536
        have hr := readBytes_bigEndian 2 bs rest (by simpa using h65536)
        simp [readValue, hr]
      · have hr := readBytes_bigEndian 4 bs rest (by simpa using h)
        simp [readValue, hr]

end Msgpack

namespace Batch

open Msgpack Dump

theorem readValue_compact (f : Nat) {n : Nat} (h : n < Nat.pow 2 64) (rest : List UInt8) :
    readValue (f + 1) (encodeCompact n ++ rest) = some (.integer n, rest) := by
  unfold encodeCompact
  split
  · rename_i h128
    have hc : n.toUInt8.toNat = n := by
      simp only [Nat.toUInt8_eq, UInt8.toNat_ofNat']
      exact Nat.mod_eq_of_lt (by omega)
    simp only [List.singleton_append, readValue, hc]
    rw [if_pos (by omega)]
  · split
    · rename_i _ h256
      have hc : n.toUInt8.toNat = n := by
        simp only [Nat.toUInt8_eq, UInt8.toNat_ofNat']
        exact Nat.mod_eq_of_lt (by omega)
      simp [readValue, readNumber, takeExactly, ofBigEndian, hc]
    · split
      · rename_i _ _ h65536
        simp [readValue, readNumber_bigEndian, Nat.mod_eq_of_lt (show n < Nat.pow 256 2 by simpa using h65536)]
      · split
        · rename_i _ _ _ h32
          simp [readValue, readNumber_bigEndian, Nat.mod_eq_of_lt (show n < Nat.pow 256 4 by simpa using h32)]
        · simp [readValue, readNumber_bigEndian, Nat.mod_eq_of_lt (show n < Nat.pow 256 8 by simpa using h)]

theorem readValue_binary (f : Nat) {o : Option (List UInt8)} (h : ∀ bs ∈ o, bs.length < Nat.pow 2 32)
    (rest : List UInt8) :
    readValue (f + 1) (encodeBinary o ++ rest) = some (o.elim .nil .bytes, rest) := by
  cases o with
  | none => simp [encodeBinary, readValue]
  | some bs =>
    have hlen := h bs rfl
    simp only [encodeBinary, List.append_assoc]
    split
    · rename_i h256
      have hc : bigEndian 1 bs.length = [bs.length.toUInt8] := by
        simp [bigEndian, Nat.mod_eq_of_lt h256, Nat.toUInt8_eq]
      have hr := readBytes_bigEndian 1 bs rest (by simpa using h256)
      rw [hc, List.singleton_append] at hr
      simp [readValue, hr]
    · split
      · rename_i _ h65536
        have hr := readBytes_bigEndian 2 bs rest (by simpa using h65536)
        simp [readValue, hr]
      · have hr := readBytes_bigEndian 4 bs rest (by simpa using hlen)
        simp [readValue, hr]

/-- An entry whose fields fit the widths its encoding writes them in: a name and an output of
fewer than `2^32` bytes, fewer than `2^63` targets and `2^32` ids. -/
def CacheEntry.Fits (e : CacheEntry) : Prop :=
  (Utf8.encode e.name).length < Nat.pow 2 32 ∧ e.stats.targets < Nat.pow 2 63 ∧
    e.stats.nodes < Nat.pow 2 32 ∧ ∀ bs ∈ e.output, bs.length < Nat.pow 2 32

instance (e : CacheEntry) : Decidable e.Fits := inferInstanceAs (Decidable (_ ∧ _ ∧ _ ∧ _))

theorem readValue_key (f : Nat) (k : String) (hk : (Utf8.encode k).length < Nat.pow 2 32) (rest : List UInt8) :
    readValue (f + 1) (encodeKey k ++ rest) = some (.bytes (Utf8.encode k), rest) :=
  readValue_string f hk rest

/-- The value an entry's bytes hold: a map of its four members, the counts as a map of two. -/
def CacheEntry.value (e : CacheEntry) : Value :=
  .map [(.bytes (Utf8.encode "Schema"), .integer cacheSchema),
    (.bytes (Utf8.encode "Name"), .bytes (Utf8.encode e.name)),
    (.bytes (Utf8.encode "Stats"), .map [(.bytes (Utf8.encode "Targets"), .integer e.stats.targets),
      (.bytes (Utf8.encode "Nodes"), .integer e.stats.nodes)]),
    (.bytes (Utf8.encode "Output"), e.output.elim .nil .bytes)]

theorem readValue_map4 (f : Nat) (rest : List UInt8) :
    readValue (f + 1) (mapHeader 4 ++ rest) = readEntries f 4 rest [] := by
  simp [mapHeader, readValue]

theorem readValue_map2 (f : Nat) (rest : List UInt8) :
    readValue (f + 1) (mapHeader 2 ++ rest) = readEntries f 2 rest [] := by
  simp [mapHeader, readValue]

theorem readEntries_cons {f n : Nat} {bs r r' : List UInt8} {k v : Value} {acc : List (Value × Value)}
    (hk : readValue f bs = some (k, r)) (hv : readValue f r = some (v, r')) :
    readEntries (f + 1) (n + 1) bs acc = readEntries f n r' ((k, v) :: acc) := by
  simp [readEntries, hk, hv]

theorem readEntries_zero (f : Nat) (bs : List UInt8) (acc : List (Value × Value)) :
    readEntries f 0 bs acc = some (.map acc.reverse, bs) := by
  cases f <;> rfl

theorem readValue_schema (f : Nat) (rest : List UInt8) :
    readValue (f + 1) (0xCD :: (bigEndian 2 cacheSchema ++ rest)) = some (.integer cacheSchema, rest) := by
  simp [readValue, readNumber_bigEndian, cacheSchema]

theorem readValue_encode (f : Nat) {e : CacheEntry} (he : e.Fits) :
    readValue (f + 8) e.encode = some (e.value, []) := by
  obtain ⟨hname, htargets, hnodes, houtput⟩ := he
  have hkey : ∀ k : String, (Utf8.encode k).length < 32 → (Utf8.encode k).length < Nat.pow 2 32 :=
    fun k h => Nat.lt_trans h (by decide)
  have key := fun (g : Nat) (k : String) (h : (Utf8.encode k).length < 32) => readValue_key g k (hkey k h)
  simp only [CacheEntry.encode, List.append_assoc, List.cons_append]
  rw [readValue_map4,
    readEntries_cons (key _ "Schema" (by decide) _) (readValue_schema _ _),
    readEntries_cons (key _ "Name" (by decide) _) (readValue_string _ hname _),
    readEntries_cons (key _ "Stats" (by decide) _) (by
      rw [readValue_map2,
        readEntries_cons (key _ "Targets" (by decide) _)
          (readValue_compact _ (Nat.lt_trans htargets (by decide)) _),
        readEntries_cons (key _ "Nodes" (by decide) _) (readValue_word _ _ _), readEntries_zero]),
    readEntries_cons (key _ "Output" (by decide) _) (by simpa using readValue_binary _ houtput []),
    readEntries_zero]
  simp [CacheEntry.value, Nat.mod_eq_of_lt hnodes]

theorem toTextKeeping_key {k : String} (h : ∀ b ∈ Utf8.encode k, b.toNat < 0x80)
    (hk : String.ofList ((Utf8.encode k).map fun b => Char.ofNat b.toNat) = k) :
    Utf8.toTextKeeping (Utf8.encode k) = k := by
  rw [Utf8.toTextKeeping, Utf8.decodeKeeping_of_ascii h, hk]

theorem wrapInt64_of_lt {n : Nat} (h : n < Nat.pow 2 63) : wrapInt64 n = n := by
  have h63 : Int.pow 2 63 = 9223372036854775808 := by decide
  have h64 : Int.pow 2 64 = 18446744073709551616 := by decide
  have hn : Nat.pow 2 63 = 9223372036854775808 := by decide
  unfold wrapInt64
  rw [h63, h64, Int.emod_eq_of_lt (by omega) (by omega)]
  omega

/-- An entry whose fields fit is read back from its bytes with its counts and its output. -/
theorem CacheEntry.decode?_encode {e : CacheEntry} (he : e.Fits) :
    ∃ e', CacheEntry.decode? e.encode = some e' ∧ e'.stats = e.stats ∧ e'.output = e.output := by
  have hlen : 8 ≤ 2 * e.encode.length + 2 := by
    have h6 : (Utf8.encode "Schema").length = 6 := by decide
    simp [CacheEntry.encode, encodeKey, encodeString, h6]
    omega
  obtain ⟨g, hg⟩ : ∃ g, 2 * e.encode.length + 2 = g + 8 := ⟨_, (Nat.sub_add_cancel hlen).symm⟩
  have hread : readFirst e.encode = some (e.value, []) := by
    rw [readFirst, hg, readValue_encode g he]
  obtain ⟨-, htargets, hnodes, -⟩ := he
  have hS : Utf8.toTextKeeping (Utf8.encode "Schema") = "Schema" := toTextKeeping_key (by decide +kernel) rfl
  have hN : Utf8.toTextKeeping (Utf8.encode "Name") = "Name" := toTextKeeping_key (by decide +kernel) rfl
  have hSt : Utf8.toTextKeeping (Utf8.encode "Stats") = "Stats" := toTextKeeping_key (by decide +kernel) rfl
  have hO : Utf8.toTextKeeping (Utf8.encode "Output") = "Output" := toTextKeeping_key (by decide +kernel) rfl
  have hT : Utf8.toTextKeeping (Utf8.encode "Targets") = "Targets" := toTextKeeping_key (by decide +kernel) rfl
  have hNo : Utf8.toTextKeeping (Utf8.encode "Nodes") = "Nodes" := toTextKeeping_key (by decide +kernel) rfl
  have hword : ((e.stats.nodes : Int) % 4294967296).toNat = e.stats.nodes := by
    have hn : Nat.pow 2 32 = 4294967296 := by decide
    rw [Int.emod_eq_of_lt (by omega) (by omega)]
    omega
  have hschema : wrapInt64 1 = 1 := by decide
  have htoOption : ∀ r : EntryReading, (pure r : MsgReading EntryReading).toOption = some r := fun _ => rfl
  refine ⟨{ name := Utf8.toTextKeeping (Utf8.encode e.name), stats := e.stats, output := e.output }, ?_, rfl, rfl⟩
  cases o : e.output <;>
  simp [CacheEntry.decode?, hread, msgRecord, msgMembers, msgKey, msgText, CacheEntry.value, hS, hN,
    hSt, hO, hT, hNo, setEntryMember, setStatsMember, msgInt, msgWord, msgBinary, wrapInt64_of_lt htargets,
    cacheSchema, hword, o, hschema, htoOption]

end Batch

end BlockGraph
