import BlockGraph.Json.Value

namespace BlockGraph.Json.Grammar

/-- A character that stands for itself inside a string: not the quote, not the backslash, not
a control character. -/
def Unescaped (c : Char) : Prop := c ≠ '"' ∧ c ≠ '\\' ∧ 0x20 ≤ c.toNat

instance : DecidablePred Unescaped := fun _ => inferInstanceAs (Decidable (_ ∧ _ ∧ _))

def HexDigit (c : Char) : Prop := c.isDigit ∨ ('a' ≤ c ∧ c ≤ 'f') ∨ ('A' ≤ c ∧ c ≤ 'F')

instance : DecidablePred HexDigit := fun _ => inferInstanceAs (Decidable (_ ∨ _ ∨ _))

/-- The text of one character inside a string: the character itself, a short escape, or a
`\u` escape of four hexadecimal digits. -/
inductive StrChar : List Char → Prop
  | plain {c : Char} : Unescaped c → StrChar [c]
  | short {c : Char} : c ∈ ['"', '\\', '/', 'b', 'f', 'n', 'r', 't'] → StrChar ['\\', c]
  | unicode {a b c d : Char} : HexDigit a → HexDigit b → HexDigit c → HexDigit d →
      StrChar ['\\', 'u', a, b, c, d]

def Str (cs : List Char) : Prop :=
  ∃ parts : List (List Char), (∀ p ∈ parts, StrChar p) ∧ cs = '"' :: parts.flatten ++ ['"']

/-- The integer part of a number: `0`, or digits that do not start with `0`. -/
def IntPart (cs : List Char) : Prop :=
  cs = ['0'] ∨ ∃ d ds, cs = d :: ds ∧ d.isDigit ∧ d ≠ '0' ∧ ∀ c ∈ ds, c.isDigit

/-- The fraction of a number: none, or a point and digits. -/
def Frac (cs : List Char) : Prop :=
  cs = [] ∨ ∃ ds, cs = '.' :: ds ∧ ds ≠ [] ∧ ∀ c ∈ ds, c.isDigit

/-- The exponent of a number: none, or `e` or `E`, a sign or none, and digits. -/
def Exp (cs : List Char) : Prop :=
  cs = [] ∨ ∃ e sign ds, cs = e :: sign ++ ds ∧ (e = 'e' ∨ e = 'E') ∧
    (sign = [] ∨ sign = ['+'] ∨ sign = ['-']) ∧ ds ≠ [] ∧ ∀ c ∈ ds, c.isDigit

/-- A number: a minus or none, an integer part, a fraction and an exponent. -/
def Number (cs : List Char) : Prop :=
  ∃ sign int frac exp, cs = sign ++ int ++ frac ++ exp ∧ (sign = [] ∨ sign = ['-']) ∧
    IntPart int ∧ Frac frac ∧ Exp exp

def commaSep (items : List (List Char)) : List Char := [','].intercalate items

def arrayText (items : List (List Char)) : List Char := '[' :: commaSep items ++ [']']

/-- The text of a member: its name, a colon and its value. -/
def memberText (m : List Char × List Char) : List Char := m.1 ++ ':' :: m.2

def objectText (members : List (List Char × List Char)) : List Char :=
  '{' :: commaSep (members.map memberText) ++ ['}']

/-- A JSON value, without blanks. -/
inductive Value : List Char → Prop
  | literal {cs : List Char} : cs = "true".toList ∨ cs = "false".toList ∨ cs = "null".toList →
      Value cs
  | number {cs : List Char} : Number cs → Value cs
  | string {cs : List Char} : Str cs → Value cs
  | array (items : List (List Char)) : (∀ v ∈ items, Value v) → Value (arrayText items)
  | object (members : List (List Char × List Char)) : (∀ m ∈ members, Str m.1) →
      (∀ m ∈ members, Value m.2) → Value (objectText members)

def Values : List (List Char) → Prop
  | [] => True
  | v :: vs => Value v ∧ Values vs

/-- Every member of the list has a string for its name and a value. -/
def Members : List (List Char × List Char) → Prop
  | [] => True
  | m :: ms => (Str m.1 ∧ Value m.2) ∧ Members ms

theorem Values.mem : ∀ {vs : List (List Char)}, Values vs → ∀ v ∈ vs, Value v
  | _ :: _, ⟨hv, hvs⟩, _, .head _ => hv
  | _ :: _, ⟨_, hvs⟩, v, .tail _ h => hvs.mem v h

theorem Members.mem : ∀ {ms : List (List Char × List Char)}, Members ms →
    ∀ m ∈ ms, Str m.1 ∧ Value m.2
  | _ :: _, ⟨hm, _⟩, _, .head _ => hm
  | _ :: _, ⟨_, hms⟩, m, .tail _ h => hms.mem m h

theorem Members.of_mem : ∀ {ms : List (List Char × List Char)},
    (∀ m ∈ ms, Str m.1 ∧ Value m.2) → Members ms
  | [], _ => trivial
  | m :: ms, h => ⟨h m List.mem_cons_self, of_mem fun m' hm' => h m' (List.mem_cons_of_mem m hm')⟩

theorem Members.cons {k v : List Char} {ms : List (List Char × List Char)} (hk : Str k)
    (hv : Value v) (h : Members ms) : Members ((k, v) :: ms) :=
  ⟨⟨hk, hv⟩, h⟩

theorem Members.append : ∀ {ms₁ ms₂ : List (List Char × List Char)}, Members ms₁ →
    Members ms₂ → Members (ms₁ ++ ms₂)
  | [], _, _, h₂ => h₂
  | _ :: _, _, ⟨hm, h₁⟩, h₂ => ⟨hm, h₁.append h₂⟩

theorem value_arrayText {items : List (List Char)} (h : Values items) : Value (arrayText items) :=
  .array items h.mem

theorem value_objectText {ms : List (List Char × List Char)} (h : Members ms) :
    Value (objectText ms) :=
  .object ms (fun m hm => (h.mem m hm).1) (fun m hm => (h.mem m hm).2)

theorem value_true : Value "true".toList := .literal (Or.inl rfl)

theorem value_false : Value "false".toList := .literal (Or.inr (Or.inl rfl))

theorem value_null : Value "null".toList := .literal (Or.inr (Or.inr rfl))

/-! ## Strings -/

theorem Str.of_unescaped {cs : List Char} (h : ∀ c ∈ cs, Unescaped c) : Str ('"' :: cs ++ ['"']) := by
  refine ⟨cs.map ([·]), ?_, ?_⟩
  · intro p hp
    obtain ⟨c, hc, rfl⟩ := List.mem_map.1 hp
    exact .plain (h c hc)
  · have hflat : ∀ ds : List Char, (ds.map ([·])).flatten = ds := by
      intro ds
      induction ds with
      | nil => rfl
      | cons c ds ih => simp [ih]
    rw [hflat]

theorem Str.of_flatMap {α : Type} (f : α → List Char) (hf : ∀ a, StrChar (f a)) (xs : List α) :
    Str ('"' :: xs.flatMap f ++ ['"']) :=
  ⟨xs.map f, by simpa using fun a _ => hf a, by rw [List.flatMap_def]⟩

theorem hexDigit_hexDigit : ∀ n < 16, HexDigit (hexDigit n) := by decide

theorem hexDigit_mod (n : Nat) : HexDigit (hexDigit (n % 16)) :=
  hexDigit_hexDigit _ (Nat.mod_lt n (by decide))

theorem strChar_escapeChar (c : Char) : StrChar (escapeChar c) := by
  unfold escapeChar
  split
  · exact .short (by simp)
  split
  · exact .short (by simp)
  split
  · exact .short (by simp)
  split
  · exact .short (by simp)
  split
  · exact .short (by simp)
  split
  · exact .short (by simp)
  split
  · exact .short (by simp)
  split
  · exact .unicode (hexDigit_mod _) (hexDigit_mod _) (hexDigit_mod _) (hexDigit_mod _)
  · -- what is left is no quote, no backslash and no control character
    refine .plain ⟨‹_›, ‹_›, ?_⟩
    rename_i hctl
    simp only [Bool.or_eq_true, decide_eq_true_eq, not_or] at hctl
    omega

theorem strChar_escapeItem (i : Utf8.Item) : StrChar (escapeItem i) := by
  cases i with
  | char c => exact strChar_escapeChar c
  | byte b => exact .plain (by decide)

theorem str_quote (s : String) : Str (quote s).toList := by
  rw [quote, String.toList_ofList]
  exact Str.of_flatMap escapeChar strChar_escapeChar s.toList

theorem str_quoteKept (s : String) : Str (quoteKept s).toList := by
  rw [quoteKept, String.toList_ofList]
  exact Str.of_flatMap escapeItem strChar_escapeItem (Utf8.items s.toList)

theorem value_quote (s : String) : Value (quote s).toList := .string (str_quote s)

theorem value_quoteKept (s : String) : Value (quoteKept s).toList := .string (str_quoteKept s)

/-! ## Numbers -/

theorem digitChar_ne_zero : ∀ n < 10, n ≠ 0 → n.digitChar ≠ '0' := by decide

theorem toDigits_head_ne_zero : ∀ n, 0 < n → ∃ d ds, Nat.toDigits 10 n = d :: ds ∧ d ≠ '0'
  | n, hn => by
    by_cases hlt : n < 10
    · exact ⟨_, [], Nat.toDigits_of_lt_base hlt, digitChar_ne_zero n hlt (by omega)⟩
    · have hdiv : 0 < n / 10 := Nat.div_pos (by omega) (by decide)
      obtain ⟨d, ds, heq, hd⟩ := toDigits_head_ne_zero (n / 10) hdiv
      refine ⟨d, ds ++ [(n % 10).digitChar], ?_, hd⟩
      rw [Nat.toDigits_of_base_le (by decide) (by omega), heq, List.cons_append]

theorem intPart_toString (n : Nat) : IntPart (toString n).toList := by
  rw [Nat.toString_eq_repr, Nat.toList_repr]
  rcases Nat.eq_zero_or_pos n with rfl | hn
  · exact Or.inl (Nat.toDigits_zero 10)
  · obtain ⟨d, ds, heq, hd⟩ := toDigits_head_ne_zero n hn
    have hdigit : ∀ c ∈ Nat.toDigits 10 n, c.isDigit :=
      fun c hc => Nat.isDigit_of_mem_toDigits (by decide) (by decide) hc
    rw [heq] at hdigit ⊢
    exact Or.inr ⟨d, ds, rfl, hdigit d List.mem_cons_self, hd,
      fun c hc => hdigit c (List.mem_cons_of_mem d hc)⟩

theorem number_toString (n : Nat) : Number (toString n).toList :=
  ⟨[], _, [], [], by simp, Or.inl rfl, intPart_toString n, Or.inl rfl, Or.inl rfl⟩

theorem value_toString (n : Nat) : Value (toString n).toList := .number (number_toString n)

end BlockGraph.Json.Grammar
