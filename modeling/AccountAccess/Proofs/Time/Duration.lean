import AccountAccess.Time.Duration
import Mathlib.Tactic.Common

/-!
A span that was written in words is read back.

* `amount` is what a written item counts, in seconds and nanoseconds, and `amounts` what several
  count. The items of a span come to the span (`amounts_items`), also without those that are zero
  (`amounts_written`).
* **One item.** `item_itemText`: an item is read as its digits and its unit, up to a blank or the
  end. `addItem_itemText`: it adds its amount, as long as the sum is a span.
* **All items.** `addItems_itemsText`: items with blanks between them add their amounts one after
  the other. Each sum on the way is a span, since the last one is.
* `parse_render` puts these together.
-/

namespace AccountAccess.Duration

/-! ### Adding -/

/-- The span `e` is as much longer than `d` as seconds and nanoseconds say, with nothing carried. -/
structure After (d : Duration) (amount : Nat × Nat) (e : Duration) : Prop where
  secs : e.secs.toNat = d.secs.toNat + amount.1
  nanos : e.nanos = d.nanos + amount.2

/-- What is no greater than the seconds or the nanoseconds of a span has 64 bits. -/
lemma word_of_le (e : Duration) {n : Nat} (h : n ≤ e.secs.toNat ∨ n ≤ e.nanos) :
    word n = .ok n := by
  have hsecs : e.secs.toNat < 18446744073709551616 := e.secs.toNat_lt
  have hnanos := e.nanos_lt
  exact if_pos (show n < 18446744073709551616 by omega)

/-- What is added to a span is no greater than the sum. -/
lemma After.le {d e : Duration} {p : Nat × Nat} (h : After d p e) :
    p.1 ≤ e.secs.toNat ∧ p.2 ≤ e.nanos :=
  ⟨by rw [h.secs]; exact Nat.le_add_left _ _, by rw [h.nanos]; exact Nat.le_add_left _ _⟩

/-- Seconds and nanoseconds are added to a span where that makes a span. -/
lemma After.add_eq_ok {d e : Duration} {s n : Nat} (h : After d (s, n) e) : d.add s n = .ok e := by
  have hs : e.secs.toNat = d.secs.toNat + s := h.secs
  have hn : e.nanos = d.nanos + n := h.nanos
  have hlt := e.nanos_lt
  have hparts : ofParts? (d.secs.toNat + s) (d.nanos + n) = some e := by
    rw [← hs, ← hn, ofParts?, dif_pos hlt, if_pos e.secs.toNat_lt]
    simp
  have hrest : (d.nanos + n) / 1000000000 = 0 := Nat.div_eq_of_lt (by omega)
  rw [add, word_of_le e (Or.inr (Nat.le_of_eq hn.symm))]
  show (if d.nanos + n = 1000000000 then _ else _) = _
  rw [if_neg (by omega), hrest, Nat.add_zero, word_of_le e (Or.inl h.le.1),
    Nat.mod_eq_of_lt (by omega)]
  show present (ofParts? (d.secs.toNat + s) (d.nanos + n)) = _
  rw [hparts]
  rfl

/-- The seconds and the nanoseconds of a number of units. -/
def Scale.times (n : Nat) : Scale → Nat × Nat
  | .secs k => (n * k, 0)
  | .nanos k => (0, n * k)

/-- No unit counts nothing. -/
lemma le_times (u : TimeUnit) (n : Nat) : n ≤ (u.scale.times n).1 ∨ n ≤ (u.scale.times n).2 := by
  cases u <;> simp only [TimeUnit.scale, Scale.times, daySecs, monthSecs, yearSecs] <;> omega

/-- Whole units are added to a span where that makes a span. -/
lemma After.addScaled_eq_ok {d e : Duration} {n : Nat} {scale : Scale}
    (h : After d (scale.times n) e) : d.addScaled n 1 scale = .ok e := by
  cases scale with
  | secs k =>
      have hword : word (n * k) = .ok (n * k) := word_of_le e (Or.inl h.le.1)
      rw [addScaled, hword]
      show (if n * k % 1 = 0 then d.add (n * k / 1) 0 else _) = _
      rw [if_pos (Nat.mod_one _), Nat.div_one]
      exact h.add_eq_ok
  | nanos k =>
      have hword : word (n * k) = .ok (n * k) := word_of_le e (Or.inr h.le.2)
      rw [addScaled, hword]
      show (if n * k % 1 = 0 then d.add 0 (n * k / 1) else _) = _
      rw [if_pos (Nat.mod_one _), Nat.div_one]
      exact h.add_eq_ok

/-- Between a span and a longer one there is the span after a part of the difference. -/
lemma After.between {d e : Duration} {s n s' n' : Nat} (h : After d (s + s', n + n') e) :
    ∃ m, After d (s, n) m ∧ After m (s', n') e := by
  obtain ⟨hs, hn⟩ := h
  dsimp only at hs hn
  have hlt := e.nanos_lt
  have hsecs : e.secs.toNat < 18446744073709551616 := e.secs.toNat_lt
  have hm : (UInt64.ofNat (d.secs.toNat + s)).toNat = d.secs.toNat + s :=
    UInt64.toNat_ofNat_of_lt' (show _ < 18446744073709551616 by omega)
  refine ⟨⟨.ofNat (d.secs.toNat + s), d.nanos + n, by omega⟩, ⟨hm, rfl⟩, ⟨?_, ?_⟩⟩
  · rw [hm]
    omega
  · show e.nanos = d.nanos + n + n'
    omega

/-! ### Written items -/

/-- The units that spans are written in, marked where the name has a plural. -/
def writtenUnits : List (String × Bool) :=
  [("year", true), ("month", true), ("day", true), ("h", false), ("m", false), ("s", false),
    ("ms", false), ("us", false), ("ns", false)]

/-- The name of a unit, in the plural where it has one and there are many. -/
def nameOf (unit : String × Bool) (many : Bool) : List Char :=
  unit.1.toList ++ if unit.2 && many then ['s'] else []

lemma itemText_eq (i : Nat × String × Bool) :
    itemText i = Decimal.digits i.1 ++ nameOf i.2 (i.1 > 1) := by
  simp [itemText, nameOf]

/-- Either name is made of letters that units have, and is a spelling of the unit. -/
lemma nameOf_spec : ∀ unit ∈ writtenUnits, ∀ many,
    nameOf unit many ≠ [] ∧ (nameOf unit many).all isUnitLetter = true ∧
      (unitNames.lookup unit.1).isSome = true ∧
      unitNames.lookup (String.ofList (nameOf unit many)) = unitNames.lookup unit.1 := by
  decide

/-- Items with blanks between them. -/
def itemsText (is : List (Nat × String × Bool)) : List Char :=
  List.intercalate [' '] (is.map itemText)

lemma itemsText_singleton (i : Nat × String × Bool) : itemsText [i] = itemText i := by
  rw [itemsText, List.map_singleton, List.intercalate_singleton]

lemma itemsText_cons_cons (i j : Nat × String × Bool) (is : List (Nat × String × Bool)) :
    itemsText (i :: j :: is) = itemText i ++ ' ' :: itemsText (j :: is) := by
  rw [itemsText, List.map_cons, List.map_cons, List.intercalate_cons_cons, ← List.map_cons,
    List.append_assoc]
  rfl

/-- The seconds and the nanoseconds that a written item counts. -/
def amount (i : Nat × String × Bool) : Nat × Nat :=
  (unitNames.lookup i.2.1).elim (0, 0) fun u => u.scale.times i.1

@[simp] lemma amount_zero (unit : String × Bool) : amount (0, unit) = (0, 0) := by
  rw [amount]
  cases unitNames.lookup unit.1 with
  | none => rfl
  | some u =>
      show u.scale.times 0 = (0, 0)
      cases u.scale <;> simp [Scale.times]

/-- The seconds and the nanoseconds that written items count together. -/
def amounts : List (Nat × String × Bool) → Nat × Nat
  | [] => (0, 0)
  | i :: is => ((amount i).1 + (amounts is).1, (amount i).2 + (amounts is).2)

lemma items_units (d : Duration) : d.items.map Prod.snd = writtenUnits := rfl

/-- The items of a span come to the span. -/
lemma amounts_items (d : Duration) : amounts d.items = (d.secs.toNat, d.nanos) := by
  have hlt := d.nanos_lt
  have hunits : unitNames.lookup "year" = some .year ∧ unitNames.lookup "month" = some .month ∧
      unitNames.lookup "day" = some .day ∧ unitNames.lookup "h" = some .hour ∧
      unitNames.lookup "m" = some .minute ∧ unitNames.lookup "s" = some .second ∧
      unitNames.lookup "ms" = some .millisecond ∧ unitNames.lookup "us" = some .microsecond ∧
      unitNames.lookup "ns" = some .nanosecond := by decide
  obtain ⟨hy, hmo, hd, hh, hm, hs, hms, hus, hns⟩ := hunits
  simp only [items, amounts, amount, hy, hmo, hd, hh, hm, hs, hms, hus, hns, Option.elim_some,
    TimeUnit.scale, Scale.times, daySecs, monthSecs, yearSecs]
  refine Prod.ext ?_ ?_
  · show _ = d.secs.toNat
    omega
  · show _ = d.nanos
    omega

/-- The items that a span is written with: those that are not zero or, without any, no seconds. -/
def written (d : Duration) : List (Nat × String × Bool) :=
  if (d.items.filter fun i => i.1 != 0).isEmpty then [(0, "s", false)]
  else d.items.filter fun i => i.1 != 0

lemma render_eq (d : Duration) : d.render = String.ofList (itemsText d.written) := by
  rw [render, written]
  split_ifs
  · decide
  · rfl

lemma written_ne_nil (d : Duration) : d.written ≠ [] := by
  rw [written]
  split_ifs with h
  · simp
  · simpa using h

lemma mem_writtenUnits {d : Duration} {i : Nat × String × Bool} (h : i ∈ d.written) :
    i.2 ∈ writtenUnits := by
  rw [written] at h
  split_ifs at h
  · rw [List.mem_singleton.mp h]
    decide
  · rw [← items_units d]
    exact List.mem_map_of_mem (List.mem_filter.mp h).1

/-- Items that are zero do not count. -/
lemma amounts_filter (is : List (Nat × String × Bool)) :
    amounts (is.filter fun i => i.1 != 0) = amounts is := by
  induction is with
  | nil => rfl
  | cons i is ih =>
      obtain ⟨n, unit⟩ := i
      cases n with
      | zero => simpa [amounts] using ih
      | succ n => simp [amounts, ih]

/-- The items that a span is written with come to the span. -/
lemma amounts_written (d : Duration) : amounts d.written = (d.secs.toNat, d.nanos) := by
  have hsum := (amounts_filter d.items).trans (amounts_items d)
  rw [written]
  split_ifs with h
  · rw [List.isEmpty_iff.mp h] at hsum
    rw [← hsum]
    decide
  · exact hsum

/-! ### Reading one item -/

/-- A run of characters ends where the rest begins with another one, or is empty. -/
lemma span_append (p : Char → Bool) {w : List Char} (hw : ∀ c ∈ w, p c = true) (rest : List Char)
    (hrest : ∀ c ∈ rest.head?, p c = false) :
    (w ++ rest).takeWhile p = w ∧ (w ++ rest).dropWhile p = rest := by
  rw [List.takeWhile_append_of_pos hw, List.dropWhile_append_of_pos hw]
  cases rest with
  | nil => simp
  | cons c rest => simp [hrest c rfl]

/-- The code points of decimal digits. -/
lemma isDigit_iff {c : Char} : c.isDigit = true ↔ 48 ≤ c.toNat ∧ c.toNat ≤ 57 := by
  simp only [Char.isDigit, Bool.and_eq_true, decide_eq_true_eq, ge_iff_le, UInt32.le_iff_toNat_le]
  rfl

/-- The code points of the letters that units have. -/
lemma isUnitLetter_iff {c : Char} : isUnitLetter c = true ↔
    (97 ≤ c.toNat ∧ c.toNat ≤ 122 ∨ 65 ≤ c.toNat ∧ c.toNat ≤ 90) ∨ c.toNat = 181 := by
  simp only [isUnitLetter, Bool.or_eq_true, Bool.and_eq_true, decide_eq_true_eq, beq_iff_eq,
    Char.le_def, UInt32.le_iff_toNat_le, ← Char.toNat_inj]
  rfl

/-- Between the digits and the letters that units have there are no blanks. -/
lemma not_isBlank {c : Char} (h : 48 ≤ c.toNat ∧ c.toNat ≤ 122 ∨ c.toNat = 181) :
    Text.isBlank c = false := by
  simp only [Text.isBlank, Bool.or_eq_false_iff, Bool.and_eq_false_iff, decide_eq_false_iff_not,
    beq_eq_false_iff_ne]
  omega

/-- A digit is no blank. -/
lemma not_isBlank_of_isDigit {c : Char} (h : c.isDigit = true) : Text.isBlank c = false := by
  rw [isDigit_iff] at h
  exact not_isBlank (by omega)

/-- A letter that units have is no digit, blank or point. -/
lemma not_isNumberPart {c : Char} (h : isUnitLetter c = true) :
    isNumberPart c = false ∧ c ≠ '.' := by
  rw [isUnitLetter_iff] at h
  have hdigit : c.isDigit = false := by
    rw [← Bool.not_eq_true, isDigit_iff]
    omega
  refine ⟨by rw [isNumberPart, hdigit, not_isBlank (by omega), Bool.or_self], ?_⟩
  rintro rfl
  exact absurd h (by decide)

/-- A written item is read as its digits and its unit. -/
lemma item_itemText {i : Nat × String × Bool} (hi : i.2 ∈ writtenUnits) (rest : List Char)
    (hrest : ∀ c ∈ rest.head?, c = ' ') :
    item (itemText i ++ rest) = (⟨Decimal.digits i.1, none, nameOf i.2 (i.1 > 1)⟩, rest) := by
  obtain ⟨hne, hletters, -, -⟩ := nameOf_spec i.2 hi (i.1 > 1)
  have hdigits := List.all_eq_true.mp (Decimal.all_isDigit_digits i.1)
  rw [itemText_eq, List.append_assoc]
  rw [List.all_eq_true] at hletters
  generalize nameOf i.2 (decide (i.1 > 1)) = name at hne hletters ⊢
  obtain ⟨letter, name, rfl⟩ := List.exists_cons_of_ne_nil hne
  obtain ⟨hpart, hpoint⟩ := not_isNumberPart (hletters letter List.mem_cons_self)
  obtain ⟨htake, hdrop⟩ := span_append isNumberPart
    (fun c hc => by simp [isNumberPart, hdigits c hc]) (letter :: name ++ rest)
    (by simpa using hpart)
  obtain ⟨htake', hdrop'⟩ := span_append isUnitLetter hletters rest
    fun c hc => by rw [hrest c hc]; decide
  rw [item, leadingDigits, htake, hdrop, List.filter_eq_self.mpr hdigits]
  split
  · rename_i s heq
    exact absurd (List.cons.inj heq).1 hpoint
  · rw [htake', hdrop']

/-- A written item adds its amount. -/
lemma addItem_itemText {i : Nat × String × Bool} (hi : i.2 ∈ writtenUnits) {d e : Duration}
    (h : After d (amount i) e) :
    d.addItem ⟨Decimal.digits i.1, none, nameOf i.2 (i.1 > 1)⟩ = .ok e := by
  obtain ⟨-, -, hsome, hname⟩ := nameOf_spec i.2 hi (i.1 > 1)
  obtain ⟨u, hu⟩ := Option.isSome_iff_exists.mp hsome
  rw [hu] at hname
  rw [amount, hu, Option.elim_some] at h
  have hword : word i.1 = .ok i.1 :=
    word_of_le e ((le_times u i.1).imp (Nat.le_trans · h.le.1) (Nat.le_trans · h.le.2))
  rw [addItem, Decimal.nat?_digits, hname]
  show (word i.1 >>= fun n => _) = _
  rw [hword]
  show (d.addScaled i.1 1 u.scale >>= fun span => _) = _
  rw [h.addScaled_eq_ok]
  rfl

/-! ### Reading all items -/

/-- The text of an item begins with a digit. -/
lemma itemText_eq_cons (i : Nat × String × Bool) :
    ∃ c cs, itemText i = c :: cs ∧ c.isDigit = true := by
  obtain ⟨c, cs, hcs, -⟩ := Decimal.digits_eq_cons i.1
  have hc : c.isDigit = true :=
    List.all_eq_true.mp (Decimal.all_isDigit_digits i.1) c (by rw [hcs]; exact List.mem_cons_self)
  exact ⟨c, _, by rw [itemText_eq, hcs, List.cons_append], hc⟩

/-- Blanks before an item are passed over. -/
lemma addItems_blank (count : Nat) (d : Duration) (s : List Char) :
    addItems count d (' ' :: s) = addItems count d s := by
  cases count with
  | zero => rfl
  | succ count =>
      have htrim : Text.trimStart (' ' :: s) = Text.trimStart s := by
        rw [Text.trimStart, List.dropWhile_cons_of_pos (by decide), Text.trimStart]
      rw [addItems, addItems, htrim]

/-- A single item is the last one. -/
lemma addItems_itemText {i : Nat × String × Bool} (hi : i.2 ∈ writtenUnits) (count : Nat)
    {d e : Duration} (h : After d (amount i) e) : addItems (count + 1) d (itemText i) = .ok e := by
  obtain ⟨c, cs, hcs, hc⟩ := itemText_eq_cons i
  have hitem := item_itemText hi [] (by simp)
  rw [List.append_nil] at hitem
  rw [addItems, hcs, Text.trimStart,
    List.dropWhile_cons_of_neg (by simp [not_isBlank_of_isDigit hc])]
  simp only [hc, if_true]
  rw [← hcs, hitem]
  exact addItem_itemText hi h

/-- An item with a blank behind it is added before what follows is read. -/
lemma addItems_itemText_append {i : Nat × String × Bool} (hi : i.2 ∈ writtenUnits) (count : Nat)
    {d e : Duration} (h : After d (amount i) e) (rest : List Char) :
    addItems (count + 1) d (itemText i ++ ' ' :: rest) = addItems count e rest := by
  obtain ⟨c, cs, hcs, hc⟩ := itemText_eq_cons i
  have hitem := item_itemText hi (' ' :: rest) (by simp)
  rw [addItems, hcs, List.cons_append, Text.trimStart,
    List.dropWhile_cons_of_neg (by simp [not_isBlank_of_isDigit hc])]
  simp only [hc, if_true]
  rw [← List.cons_append, ← hcs, hitem]
  show (if isNumberPart ' ' = true then _ else _) = _
  rw [if_pos (by decide), addItem_itemText hi h]
  exact addItems_blank count e rest

/-- Written items with blanks between them add their amounts. -/
lemma addItems_itemsText {is : List (Nat × String × Bool)} (hne : is ≠ [])
    (hi : ∀ i ∈ is, i.2 ∈ writtenUnits) {count : Nat} (hcount : (itemsText is).length < count)
    {d e : Duration} (h : After d (amounts is) e) : addItems count d (itemsText is) = .ok e := by
  -- over the items; what is left to read is shorter by an item and a blank each time
  induction is generalizing count d with
  | nil => exact absurd rfl hne
  | cons i is ih =>
      have hhead := hi i List.mem_cons_self
      cases count with
      | zero => exact absurd hcount (Nat.not_lt_zero _)
      | succ count =>
          cases is with
          | nil =>
              rw [itemsText_singleton]
              exact addItems_itemText hhead count h
          | cons j is =>
              obtain ⟨m, hfirst, hlast⟩ := h.between
              rw [itemsText_cons_cons, List.length_append, List.length_cons] at hcount
              rw [itemsText_cons_cons, addItems_itemText_append hhead count hfirst]
              exact ih (List.cons_ne_nil j is) (fun k hk => hi k (List.mem_cons_of_mem i hk))
                (by omega) hlast

/-- The text of a span begins with an item. -/
lemma toList_render (d : Duration) :
    ∃ i rest, i.2 ∈ writtenUnits ∧ d.render.toList = itemText i ++ rest := by
  obtain ⟨i, is, his⟩ := List.exists_cons_of_ne_nil d.written_ne_nil
  have hi : i.2 ∈ writtenUnits := mem_writtenUnits (by rw [his]; exact List.mem_cons_self)
  rw [render_eq, String.toList_ofList, his]
  cases is with
  | nil => exact ⟨i, [], hi, by rw [itemsText_singleton, List.append_nil]⟩
  | cons j is => exact ⟨i, ' ' :: itemsText (j :: is), hi, itemsText_cons_cons i j is⟩

/-- The text of a span is neither a lone zero nor blank. -/
lemma render_ne (d : Duration) : d.render ≠ "0" ∧ Text.isBlankText d.render = false := by
  obtain ⟨i, rest, hi, htext⟩ := toList_render d
  constructor
  · intro h
    have hdigits := List.length_pos_iff.mpr (Decimal.digits_ne_nil i.1)
    have hname := List.length_pos_iff.mpr (nameOf_spec i.2 hi (i.1 > 1)).1
    have hlen := congrArg List.length htext
    rw [h, itemText_eq, List.length_append, List.length_append] at hlen
    have hone : "0".toList.length = 1 := rfl
    omega
  · obtain ⟨c, cs, hcs, hc⟩ := itemText_eq_cons i
    rw [Text.isBlankText, htext, hcs, List.cons_append, List.all_cons, not_isBlank_of_isDigit hc,
      Bool.false_and]

/-- **A span that was written in words is read back.** -/
theorem parse_render (d : Duration) : parse d.render = .ok d := by
  obtain ⟨hzero, hblank⟩ := render_ne d
  have htext : d.render.toList = itemsText d.written := by
    rw [render_eq, String.toList_ofList]
  have hafter : After zero (amounts d.written) d := by
    rw [amounts_written]
    exact ⟨(Nat.zero_add _).symm, (Nat.zero_add _).symm⟩
  rw [parse, if_neg hzero, hblank, if_neg Bool.false_ne_true, htext]
  refine addItems_itemsText d.written_ne_nil (fun i hi => mem_writtenUnits hi) ?_ hafter
  rw [← htext, String.length_toList]
  exact Nat.lt_succ_self _

/-- The text of the longest span. -/
example : render { secs := 18446744073709551615, nanos := 999999999 } =
    "584542046090years 7months 15days 17h 5m 3s 999ms 999us 999ns" := by
  decide

end AccountAccess.Duration
