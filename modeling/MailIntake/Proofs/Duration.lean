import MailIntake.Duration
import MailIntake.Proofs.Text.Numeral
import MailIntake.Proofs.Text.Split
/-!
Written spans of time.  The parts of a span add up to it (`adds_parts`), and each of them is read as
its number of units.  On the way no sum gets too large, since none is larger than the span.  So what
is written for a span is read as that span (`parse?_render`).
-/
namespace MailIntake.Duration

open Text

def toNanos (d : Duration) : Nat :=
  d.seconds.toNat * 1000000000 + d.nanos.val

def TimeUnit.worth (unit : TimeUnit) : Nat :=
  unit.seconds * 1000000000 + unit.nanos

section Sums

variable {d e : Duration} {n : Nat} {unit : TimeUnit}

theorem toNanos_inj (hsame : d.toNanos = e.toNanos) : d = e := by
  have hd := d.nanos.isLt
  have he := e.nanos.isLt
  simp only [toNanos] at hsame
  have hseconds : d.seconds = e.seconds := UInt64.toNat_inj.mp (by omega)
  have hnanos : d.nanos = e.nanos := Fin.ext (by omega)
  cases d
  cases e
  cases hseconds
  cases hnanos
  rfl

theorem toNanos_lt (d : Duration) : d.toNanos < UInt64.size * 1000000000 := by
  have hseconds : d.seconds.toNat < UInt64.size := d.seconds.toNat_lt
  have hnanos := d.nanos.isLt
  rw [toNanos]
  omega

/-- Every number of nanoseconds up to those of a span is that of a span. -/
theorem exists_toNanos_eq {nanos : Nat} (hnanos : nanos ≤ e.toNanos) :
    ∃ d : Duration, d.toNanos = nanos := by
  have he := e.toNanos_lt
  refine ⟨⟨UInt64.ofNat (nanos / 1000000000), Fin.ofNat _ nanos⟩, ?_⟩
  have hseconds : (UInt64.ofNat (nanos / 1000000000)).toNat = nanos / 1000000000 :=
    UInt64.toNat_ofNat_of_lt' (by omega)
  rw [toNanos, hseconds]
  exact Nat.div_add_mod' nanos 1000000000

/-- Seconds that a span has room for fit into 64 bits. -/
theorem fits_of_le (hn : n * 1000000000 ≤ e.toNanos) : fits n = some n := by
  have he := e.toNanos_lt
  exact if_pos (by omega)

theorem fits_of_lt (hn : n < 2000000000) : fits n = some n :=
  if_pos (Nat.lt_trans hn (by decide))

theorem add?_eq_some {seconds nanos : Nat} (hnanos : nanos < 1000000000)
    (hsum : d.toNanos + seconds * 1000000000 + nanos = e.toNanos) :
    d.add? seconds nanos = some e := by
  have hd := d.nanos.isLt
  have he := e.nanos.isLt
  have hcarry : fits (d.nanos.val + nanos) = some (d.nanos.val + nanos) := fits_of_lt (by omega)
  simp only [toNanos] at hsum
  have hadded : fits (seconds + (d.nanos.val + nanos) / 1000000000) =
      some (seconds + (d.nanos.val + nanos) / 1000000000) :=
    fits_of_le (e := e) (by rw [toNanos]; omega)
  have hseconds : d.seconds.toNat + (seconds + (d.nanos.val + nanos) / 1000000000) =
      e.seconds.toNat := by omega
  have htotal : fits e.seconds.toNat = some e.seconds.toNat :=
    fits_of_le (e := e) (Nat.le_add_right _ _)
  have hrest : Fin.ofNat 1000000000 (d.nanos.val + nanos) = e.nanos :=
    Fin.ext (show (d.nanos.val + nanos) % 1000000000 = e.nanos.val by omega)
  simp only [add?, hcarry, hadded, hseconds, htotal, hrest, bind, Option.bind, pure,
    UInt64.ofNat_toNat]

/-- Units of time are added to a span if the sum is a span. -/
theorem addUnits?_eq_some (hnanos : n * unit.nanos < 1000000000)
    (hsum : d.toNanos + n * unit.worth = e.toNanos) : d.addUnits? n none unit = some e := by
  rw [TimeUnit.worth, Nat.mul_add, ← Nat.mul_assoc, ← Nat.add_assoc] at hsum
  have hadd := add?_eq_some hnanos hsum
  have hseconds : fits (n * unit.seconds) = some (n * unit.seconds) :=
    fits_of_le (e := e) (by omega)
  have hrest : fits (n * unit.nanos) = some (n * unit.nanos) := fits_of_lt (by omega)
  simp only [addUnits?, hseconds, hrest, bind, Option.bind, hadd, pure]

/-- A number of units that a span has room for fits into 64 bits. -/
theorem fits_of_sum (hnanos : n * unit.nanos < 1000000000)
    (hsum : d.toNanos + n * unit.worth = e.toNanos) : fits n = some n := by
  have he := e.toNanos_lt
  have hsize : 1000000000 < UInt64.size := by decide
  apply if_pos
  cases unit <;> simp only [TimeUnit.worth, TimeUnit.seconds, TimeUnit.nanos] at hnanos hsum <;>
    omega

end Sums

/-- A name with which a unit is written: it shows where it begins and where it ends. -/
def Names (name : String) (unit : TimeUnit) : Prop :=
  TimeUnit.ofName? name = some unit ∧ name.toList ≠ [] ∧
    ∀ c ∈ name.toList, isUnitChar c = true ∧ isNumberChar c = false ∧ c ≠ '.'

instance (name : String) (unit : TimeUnit) : Decidable (Names name unit) :=
  @instDecidableAnd _ _ inferInstance
    (@instDecidableAnd _ _ inferInstance (List.decidableBAll _ name.toList))

/-- Numbers of units as they are written, and the nanoseconds that they add up to. -/
inductive Adds : List String → Nat → Prop
  | nil : Adds [] 0
  | cons {n : Nat} {name : String} {unit : TimeUnit} {words : List String} {total : Nat}
      (hname : Names name unit) (hnanos : n * unit.nanos < 1000000000)
      (hrest : Adds words total) :
      Adds ((toString n ++ name) :: words) (n * unit.worth + total)

theorem Adds.eq_zero {total : Nat} (hadds : Adds [] total) : total = 0 := by
  cases hadds
  rfl

theorem Adds.append {front back : List String} {first second : Nat} (hfront : Adds front first)
    (hback : Adds back second) : Adds (front ++ back) (first + second) := by
  induction hfront with
  | nil =>
      rw [Nat.zero_add]
      exact hback
  | cons hname hnanos _ ih =>
      rw [Nat.add_assoc]
      exact .cons hname hnanos ih

section Parts

variable {n : Nat} {name : String} {unit : TimeUnit}

theorem adds_singleton (hname : Names name unit) (hnanos : n * unit.nanos < 1000000000) :
    Adds [toString n ++ name] (n * unit.worth) := by
  have hone := Adds.cons hname hnanos .nil
  rwa [Nat.add_zero] at hone

theorem adds_item (hname : Names name unit) (hnanos : n * unit.nanos < 1000000000) :
    Adds (item n name) (n * unit.worth) := by
  by_cases hzero : n = 0
  · rw [item, if_pos hzero, hzero, Nat.zero_mul]
    exact .nil
  · rw [item, if_neg hzero]
    exact adds_singleton hname hnanos

theorem adds_itemPlural (hname : Names name unit) (hmany : Names (name ++ "s") unit)
    (hnanos : n * unit.nanos < 1000000000) : Adds (itemPlural n name) (n * unit.worth) := by
  by_cases hzero : n = 0
  · rw [itemPlural, if_pos hzero, hzero, Nat.zero_mul]
    exact .nil
  · rw [itemPlural, if_neg hzero, String.append_assoc]
    by_cases hone : n = 1
    · rw [if_pos hone, String.append_empty]
      exact adds_singleton hname hnanos
    · rw [if_neg hone]
      exact adds_singleton hmany hnanos

end Parts

/-- The parts of a span add up to it. -/
theorem adds_parts (d : Duration) : Adds d.parts d.toNanos := by
  have hd := d.nanos.isLt
  have hwhole : ∀ n : Nat, n * 0 < 1000000000 := by simp
  have hyears : ∀ n, Adds (itemPlural n "year") (n * TimeUnit.year.worth) := fun n =>
    adds_itemPlural (by decide) (by decide) (hwhole n)
  have hmonths : ∀ n, Adds (itemPlural n "month") (n * TimeUnit.month.worth) := fun n =>
    adds_itemPlural (by decide) (by decide) (hwhole n)
  have hdays : ∀ n, Adds (itemPlural n "day") (n * TimeUnit.day.worth) := fun n =>
    adds_itemPlural (by decide) (by decide) (hwhole n)
  have hhours : ∀ n, Adds (item n "h") (n * TimeUnit.hour.worth) := fun n =>
    adds_item (by decide) (hwhole n)
  have hminutes : ∀ n, Adds (item n "m") (n * TimeUnit.minute.worth) := fun n =>
    adds_item (by decide) (hwhole n)
  have hseconds : ∀ n, Adds (item n "s") (n * TimeUnit.second.worth) := fun n =>
    adds_item (by decide) (hwhole n)
  have hmillis : Adds (item (d.nanos.val / 1000000) "ms")
      (d.nanos.val / 1000000 * TimeUnit.millisecond.worth) :=
    adds_item (by decide) (by simp only [TimeUnit.nanos]; omega)
  have hmicros : Adds (item (d.nanos.val / 1000 % 1000) "us")
      (d.nanos.val / 1000 % 1000 * TimeUnit.microsecond.worth) :=
    adds_item (by decide) (by simp only [TimeUnit.nanos]; omega)
  have hnanos : Adds (item (d.nanos.val % 1000) "ns")
      (d.nanos.val % 1000 * TimeUnit.nanosecond.worth) :=
    adds_item (by decide) (by simp only [TimeUnit.nanos]; omega)
  suffices hparts : ∃ total, Adds d.parts total ∧ total = d.toNanos by
    obtain ⟨total, hadds, rfl⟩ := hparts
    exact hadds
  refine ⟨_, ((((((((hyears _).append (hmonths _)).append (hdays _)).append (hhours _)).append
    (hminutes _)).append (hseconds _)).append hmillis).append hmicros).append hnanos, ?_⟩
  -- What a unit leaves over is shared out among the smaller ones.
  simp only [TimeUnit.worth, TimeUnit.seconds, TimeUnit.nanos, toNanos]
  omega

section Reading

variable {n : Nat} {name : String} {unit : TimeUnit} {d e : Duration} {words : List String}
  {rest : List Char}

theorem digitsValue_toDigits (n : Nat) : digitsValue (Nat.toDigits 10 n) = n := by
  have hdigits : (Nat.toDigits 10 n).filter Char.isDigit = Nat.toDigits 10 n :=
    List.filter_eq_self.mpr fun _ => Ascii.isDigit_of_mem_toDigits
  rw [digitsValue, hdigits, Ascii.number?_toDigits, Option.getD_some]

theorem isNumberChar_of_isDigit {c : Char} (hc : c.isDigit) : isNumberChar c = true := by
  rw [isNumberChar, hc, Bool.true_or]

theorem isBlank_of_isDigit {c : Char} (hc : c.isDigit) : isBlank c = false := by
  rw [Char.isDigit_iff_toNat] at hc
  have hcodes : '0'.toNat = 48 ∧ '9'.toNat = 57 := by decide
  simp only [isBlank, Bool.or_eq_false_iff, Bool.and_eq_false_iff, decide_eq_false_iff_not,
    beq_eq_false_iff_ne]
  omega

theorem exists_toDigits_eq_cons (n : Nat) :
    ∃ c digits, Nat.toDigits 10 n = c :: digits ∧ c.isDigit := by
  cases hdigits : Nat.toDigits 10 n with
  | nil => exact absurd hdigits Nat.toDigits_ne_nil
  | cons c digits =>
      have hc : c.isDigit := Ascii.isDigit_of_mem_toDigits (hdigits ▸ List.mem_cons_self)
      exact ⟨c, digits, rfl, hc⟩

theorem readFraction_of_head {text : List Char} (hpoint : ∀ c ∈ text.head?, c ≠ '.') :
    readFraction text = some (none, text) := by
  cases text with
  | nil => rfl
  | cons c text =>
      have hc := hpoint c rfl
      rw [readFraction]
      simpa using hc

/-- A number with its unit is read up to where the name of the unit ends, and added. -/
theorem sum?_part (hname : Names name unit) (hrest : ∀ c ∈ rest.head?, isUnitChar c = false)
    (hfits : fits n = some n) (hadd : d.addUnits? n none unit = some e) (more : Nat) :
    sum? (more + 1) d ((toString n ++ name).toList ++ rest) = sum? more e rest := by
  obtain ⟨hunit, hnonempty, hchars⟩ := hname
  rw [Nat.toString_eq_repr, String.toList_append, Nat.toList_repr, List.append_assoc]
  have hrun : ∀ c ∈ Nat.toDigits 10 n, isNumberChar c := fun c hc =>
    isNumberChar_of_isDigit (Ascii.isDigit_of_mem_toDigits hc)
  have hhead : ∀ c ∈ (name.toList ++ rest).head?, isNumberChar c = false ∧ c ≠ '.' := by
    intro c hc
    rw [List.head?_append_of_ne_nil _ hnonempty] at hc
    exact (hchars c (List.mem_of_mem_head? hc)).2
  have hnumber := takeWhile_run hrun fun c hc => (hhead c hc).1
  have hbehind := dropWhile_run hrun fun c hc => (hhead c hc).1
  have hwhole := readFraction_of_head fun c hc => (hhead c hc).2
  have hletters := takeWhile_run (fun c hc => (hchars c hc).1) hrest
  have hend := dropWhile_run (fun c hc => (hchars c hc).1) hrest
  have hvalue := digitsValue_toDigits n
  obtain ⟨c, digits, hdigits, hc⟩ := exists_toDigits_eq_cons n
  rw [hdigits] at hnumber hbehind hvalue
  rw [hdigits, List.cons_append]
  rw [List.cons_append] at hnumber hbehind
  have hstart : (c :: (digits ++ (name.toList ++ rest))).dropWhile isBlank =
      c :: (digits ++ (name.toList ++ rest)) :=
    List.dropWhile_cons_of_neg (by simp [isBlank_of_isDigit hc])
  simp only [sum?, hstart, hc, if_true, hnumber, hbehind, hvalue, hfits, hwhole, hletters, hend,
    String.ofList_toList, hunit, hadd, bind, Option.bind]

theorem sum?_blank {c : Char} (hc : isBlank c) (more : Nat) (d : Duration) (text : List Char) :
    sum? more d (c :: text) = sum? more d text := by
  cases more with
  | zero => rfl
  | succ more => rw [sum?, sum?, List.dropWhile_cons_of_pos hc]

/-- Words as they stand behind others, a space before each. -/
def behindSpaces (words : List String) : List Char :=
  words.flatMap fun word => ' ' :: word.toList

theorem isUnitChar_of_behindSpaces (words : List String) :
    ∀ c ∈ (behindSpaces words).head?, isUnitChar c = false := by
  cases words with
  | nil => simp [behindSpaces]
  | cons word words =>
      intro c hc
      cases hc
      decide

theorem toList_intercalate_cons (word : String) (words : List String) :
    (" ".intercalate (word :: words)).toList = word.toList ++ behindSpaces words := by
  induction words generalizing word with
  | nil => rw [String.intercalate_singleton, behindSpaces, List.flatMap_nil, List.append_nil]
  | cons next words ih =>
      rw [String.intercalate_cons_cons, String.toList_append, String.toList_append, ih,
        List.append_assoc]
      rfl

/-- Numbers of units that add up to what one span lacks of another lead from it to the other. -/
theorem Adds.sum?_eq_some {total : Nat} (hadds : Adds words total)
    (hsum : d.toNanos + total = e.toNanos) {more : Nat} (hmore : words.length < more) :
    sum? more d (behindSpaces words) = some e := by
  induction hadds generalizing d more with
  | nil =>
      obtain ⟨more, rfl⟩ := Nat.exists_eq_succ_of_ne_zero (Nat.ne_zero_of_lt hmore)
      rw [Nat.add_zero] at hsum
      rw [toNanos_inj hsum]
      rfl
  | @cons n name unit words total hname hnanos _ ih =>
      obtain ⟨more, rfl⟩ := Nat.exists_eq_succ_of_ne_zero (Nat.ne_zero_of_lt hmore)
      have hroom : d.toNanos + n * unit.worth ≤ e.toNanos := by omega
      obtain ⟨next, hnext⟩ := exists_toNanos_eq hroom
      have hadd := addUnits?_eq_some hnanos hnext.symm
      have hfits := fits_of_sum hnanos hnext.symm
      have hrest := ih (d := next) (by omega) (Nat.lt_of_succ_lt_succ hmore)
      rw [behindSpaces, List.flatMap_cons, List.cons_append, sum?_blank (by decide), ← hrest]
      exact sum?_part hname (isUnitChar_of_behindSpaces words) hfits hadd more

/-- A word begins with a digit, and goes on. -/
theorem Adds.exists_digit {word : String} {total : Nat} (hadds : Adds (word :: words) total) :
    ∃ c letters, word.toList = c :: letters ∧ c.isDigit ∧ letters ≠ [] := by
  cases hadds with
  | @cons n name _ _ _ hname _ _ =>
      obtain ⟨c, digits, hdigits, hc⟩ := exists_toDigits_eq_cons n
      rw [Nat.toString_eq_repr, String.toList_append, Nat.toList_repr, hdigits]
      exact ⟨c, digits ++ name.toList, rfl, hc, List.append_ne_nil_of_right_ne_nil _ hname.2.1⟩

theorem length_le_length_behindSpaces (words : List String) :
    words.length ≤ (behindSpaces words).length := by
  induction words with
  | nil => exact Nat.le_refl 0
  | cons word words ih =>
      simp only [behindSpaces, List.flatMap_cons, List.length_append, List.length_cons] at ih ⊢
      omega

end Reading

/-- What is written for a span is read as that span. -/
theorem parse?_render (d : Duration) : parse? d.render = some d := by
  have hadds := adds_parts d
  rw [render]
  cases hparts : d.parts with
  | nil =>
      rw [hparts] at hadds
      have hzero : (ofSeconds 0).toNanos = d.toNanos := hadds.eq_zero.symm
      rw [← toNanos_inj hzero]
      decide +kernel
  | cons word words =>
      rw [hparts] at hadds
      obtain ⟨c, letters, hword, hc, hletters⟩ := hadds.exists_digit
      have htext := toList_intercalate_cons word words
      have hlength := length_le_length_behindSpaces words
      have hzero : " ".intercalate (word :: words) ≠ "0" := by
        intro heq
        rw [heq, hword] at htext
        exact hletters (List.append_eq_nil_iff.mp (List.cons.inj htext).2.symm).1
      have hblank : ¬ (" ".intercalate (word :: words)).toList.all isBlank := by
        rw [htext, hword, List.cons_append, List.all_cons, isBlank_of_isDigit hc]
        exact Bool.false_ne_true
      have hmore : (word :: words).length < (" ".intercalate (word :: words)).length + 1 := by
        rw [← String.length_toList, htext, hword]
        simp only [List.length_cons, List.length_append]
        omega
      show parse? (" ".intercalate (word :: words)) = some d
      rw [parse?, if_neg hzero, if_neg hblank, htext,
        ← sum?_blank (c := ' ') (by decide)]
      exact hadds.sum?_eq_some (Nat.zero_add _) hmore

end MailIntake.Duration
