import Newswire.Moment.Iso

/-!
The written form of moments, read back. Whatever moment is written, its day and its time of day are
read again as they were, and so is its offset unless that is no nought but less than a second; such
an offset is read as nought. Since no text is read with one, a moment that was read once is written
and read without a change ever after.
-/

namespace Newswire

open Text

/-! ### Characters of numbers -/

namespace Text

theorem mem_lastDigits {width n : Nat} {c : Char} (h : c ∈ lastDigits width n) :
    ∃ d : Fin 10, c = Nat.digitChar d := by
  induction width with
  | zero => cases h
  | succ width ih =>
    rcases List.mem_cons.mp h with rfl | h
    · exact ⟨⟨_, Nat.mod_lt _ (by decide)⟩, rfl⟩
    · exact ih h

theorem exists_lastDigits_cons (n : Nat) {width : Nat} (h : 0 < width) :
    ∃ d : Fin 10, ∃ rest, lastDigits width n = Nat.digitChar d :: rest := by
  cases width with
  | zero => cases h
  | succ width => exact ⟨⟨_, Nat.mod_lt _ (by decide)⟩, _, rfl⟩

theorem isHalf_toNat (c : Char) : isHalf c.toNat = false := by
  rw [Bool.eq_false_iff, ne_eq, isHalf_iff]
  have hvalid : c.toNat < 0xD800 ∨ 0xDFFF < c.toNat ∧ c.toNat < 0x110000 := c.valid
  omega

theorem codesOf_of_not_mem {cs : List Char} (h : mark ∉ cs) : codesOf cs = cs.map Char.toNat := by
  induction cs with
  | nil => rfl
  | cons c rest ih =>
    have hc : c ≠ mark := fun e => h (e ▸ List.mem_cons_self ..)
    rw [codesOf_cons hc, ih fun hm => h (List.mem_cons_of_mem c hm), List.map_cons]

end Text

namespace Moment

theorem takeNumber?_lastDigits (width n : Nat) (rest : List Char) :
    takeNumber? width (lastDigits width n ++ rest) = some (n % Nat.pow 10 width, rest) := by
  have htake : (lastDigits width n ++ rest).take width = lastDigits width n :=
    List.take_left' (length_lastDigits width n)
  have hdrop : (lastDigits width n ++ rest).drop width = rest :=
    List.drop_left' (length_lastDigits width n)
  rw [takeNumber?, htake, hdrop, if_pos (length_lastDigits width n), number?_lastDigits]
  rfl

/-! ### Times of day -/

/-- The characters of a fraction of a second, none when it is nought. -/
def fractionChars (micros : Nat) : List Char :=
  if micros = 0 then [] else '.' :: lastDigits 6 micros

def clockChars (hour minute second micro : Nat) : List Char :=
  lastDigits 2 hour ++ ':' :: (lastDigits 2 minute ++ ':' :: (lastDigits 2 second ++
    fractionChars micro))

theorem toList_isoMicros (micros : Nat) : (isoMicros micros).toList = fractionChars micros := by
  unfold isoMicros fractionChars
  split
  · rfl
  · simp only [padded, String.toList_append, String.toList_ofList]
    rfl

variable {next : Option Char} {left : Nat} {units : List Nat}

theorem readFraction?_lastDigits (micros : Nat) :
    readFraction? next units (lastDigits 6 micros)
      = some (.ofUnits units (micros % 1000000) (stands next)) := by
  have hwidth : min (lastDigits 6 micros).length 6 = 6 := by rw [length_lastDigits]; rfl
  have htake := takeNumber?_lastDigits 6 micros []
  rw [List.append_nil] at htake
  rw [readFraction?, hwidth]
  simp only [htake, Option.bind_eq_bind, Option.bind_some]
  show some (ReadClock.ofUnits units (micros % 1000000 * 1) (stands next)) = _
  rw [Nat.mul_one]

theorem readUnits?_colon (n : Nat) (d : Char) (rest : List Char) :
    readUnits? next (left + 1) true units (lastDigits 2 n ++ ':' :: d :: rest)
      = readUnits? next left true (units ++ [n % 100]) (d :: rest) := by
  rw [readUnits?, takeNumber?_lastDigits]
  simp only [Option.bind_eq_bind, Option.bind_some, List.isEmpty_cons, Bool.false_and,
    Bool.false_eq_true, if_false, beq_self_eq_true, ite_self, Bool.and_self, if_true]

theorem readUnits?_last (n micros : Nat) (hm : micros < 1000000) :
    readUnits? next left true units (lastDigits 2 n ++ fractionChars micros)
      = some (.ofUnits (units ++ [n % 100]) micros (stands next)) := by
  rw [readUnits?, takeNumber?_lastDigits]
  unfold fractionChars
  split
  · next h =>
    subst h
    rfl
  · obtain ⟨d, rest, hd⟩ := exists_lastDigits_cons micros (Nat.succ_pos 5)
    have hfraction : readFraction? next (units ++ [n % 100]) (lastDigits 6 micros) = _ :=
      readFraction?_lastDigits micros
    rw [Nat.mod_eq_of_lt hm, hd] at hfraction
    rw [hd]
    have hcolon : ('.' == ':') = false := rfl
    simp only [Option.bind_eq_bind, Option.bind_some, List.isEmpty_cons, Bool.false_and,
      Bool.false_eq_true, if_false, hcolon, Bool.and_false, beq_self_eq_true, Bool.true_or, if_true]
    exact hfraction

theorem lastDigits_append_ne_nil (n : Nat) (rest : List Char) :
    ∃ d more, lastDigits 2 n ++ rest = d :: more := by
  obtain ⟨d, more, hd⟩ := exists_lastDigits_cons n Nat.two_pos
  exact ⟨Nat.digitChar d, more ++ rest, by rw [hd, List.cons_append]⟩

theorem readClock?_clockChars {hour minute second micro : Nat} (hh : hour < 100)
    (hm : minute < 100) (hs : second < 100) (hmicro : micro < 1000000) :
    readClock? next (clockChars hour minute second micro)
      = some ⟨hour, minute, second, micro, stands next⟩ := by
  obtain ⟨c, more, hsecond⟩ := lastDigits_append_ne_nil second (fractionChars micro)
  obtain ⟨d, rest, hminute⟩ := lastDigits_append_ne_nil minute
    (':' :: (lastDigits 2 second ++ fractionChars micro))
  rw [readClock?, clockChars, hminute, readUnits?_colon, ← hminute, hsecond, readUnits?_colon,
    ← hsecond, readUnits?_last second micro hmicro, Nat.mod_eq_of_lt hh, Nat.mod_eq_of_lt hm,
    Nat.mod_eq_of_lt hs]
  rfl

theorem readClock?_minutes {hour minute : Nat} (hh : hour < 100) (hm : minute < 100) :
    readClock? next (lastDigits 2 hour ++ ':' :: lastDigits 2 minute)
      = some ⟨hour, minute, 0, 0, stands next⟩ := by
  obtain ⟨d, rest, hminute⟩ := lastDigits_append_ne_nil minute (fractionChars 0)
  have hlast : readUnits? next 1 true [hour] (lastDigits 2 minute ++ fractionChars 0) = _ :=
    readUnits?_last minute 0 (by decide)
  rw [fractionChars, if_pos rfl, List.append_nil] at hminute hlast
  rw [readClock?, hminute, readUnits?_colon, ← hminute, List.nil_append, Nat.mod_eq_of_lt hh, hlast,
    Nat.mod_eq_of_lt hm]
  rfl

/-! ### Offsets -/

def zoneChars (micros : Nat) : List Char :=
  let seconds := micros / 1000000
  if micros % 60000000 = 0 then
    lastDigits 2 (seconds / 3600) ++ ':' :: lastDigits 2 (seconds / 60 % 60)
  else clockChars (seconds / 3600) (seconds / 60 % 60) (seconds % 60) (micros % 1000000)

def signChar (o : Offset) : Char :=
  if o.micros < 0 then '-' else '+'

theorem toList_isoOffset (o : Offset) :
    (isoOffset o).toList = signChar o :: zoneChars o.micros.natAbs := by
  have hsign : (if o.micros < 0 then "-" else "+").toList = [signChar o] := by
    unfold signChar
    split <;> rfl
  unfold isoOffset zoneChars
  simp only [String.toList_append, hsign, padded, String.toList_ofList, List.append_assoc,
    List.singleton_append]
  split
  · simp only [String.toList_empty, List.append_nil]
    rfl
  · simp only [String.toList_append, String.toList_ofList, toList_isoMicros, clockChars]
    rfl

theorem readClock?_zoneChars {micros : Nat} (h : micros < 86400000000) :
    readClock? none (zoneChars micros) = some ⟨micros / 1000000 / 3600, micros / 1000000 / 60 % 60,
      micros / 1000000 % 60, micros % 1000000, false⟩ := by
  unfold zoneChars
  split
  · next hm =>
    have hsecond : micros / 1000000 % 60 = 0 := by omega
    have hmicro : micros % 1000000 = 0 := by omega
    rw [readClock?_minutes (by omega) (by omega), hsecond, hmicro]
    rfl
  · rw [readClock?_clockChars (by omega) (by omega) (by omega) (by omega)]
    rfl

end Moment

/-- What is read of the written form of an offset. -/
def Offset.asRead (o : Offset) : Offset :=
  if 1000000 ≤ o.micros.natAbs then o else .utc

/-- The offset is no less than a second, unless it is nought. -/
def Offset.Legible (o : Offset) : Prop :=
  o.micros = 0 ∨ 1000000 ≤ o.micros.natAbs

theorem Offset.Legible.asRead_eq {o : Offset} (h : o.Legible) : o.asRead = o := by
  unfold Offset.asRead
  split
  · rfl
  · next hlt =>
    have hzero : o.micros = 0 := h.resolve_right hlt
    cases o
    cases hzero
    rfl

theorem Offset.asRead_eq_iff {o : Offset} : o.asRead = o ↔ o.Legible := by
  constructor
  · intro h
    unfold Offset.asRead at h
    split at h
    · next hsecond => exact .inr hsecond
    · exact .inl (h ▸ rfl)
  · exact Offset.Legible.asRead_eq

theorem Offset.legible_of_dvd {o : Offset} (h : 1000000 ∣ o.micros) : o.Legible := by
  obtain ⟨seconds, hs⟩ := h
  unfold Offset.Legible
  omega

namespace Moment

theorem readOffset?_cons {sign : Char} (hsign : sign ≠ 'Z') {cs : List Char} {c : ReadClock}
    (hc : readClock? none cs = some c) (hmore : c.more = false) :
    readOffset? (sign :: cs) =
      let seconds := (c.hour * 60 + c.minute) * 60 + c.second
      let micros : Int := if seconds = 0 then 0 else (seconds * 1000000 + c.micro : Nat)
      some (if sign == '-' then -micros else micros) := by
  rw [readOffset?]
  · simp only [Option.bind_eq_bind, hc, Option.bind_some, hmore, Bool.false_eq_true, if_false]
    rfl
  · exact hsign

theorem readOffset?_isoOffset (o : Offset) :
    readOffset? (isoOffset o).toList = some o.asRead.micros := by
  have hbound : o.micros.natAbs < 86400000000 := by
    have := o.valid
    omega
  have hsign : signChar o ≠ 'Z' := by
    unfold signChar
    split <;> decide
  have hminus : (signChar o == '-') = decide (o.micros < 0) := by
    unfold signChar
    split <;> simp_all
  have hasRead : o.asRead.micros = if o.micros.natAbs / 1000000 = 0 then 0 else o.micros := by
    unfold Offset.asRead
    by_cases h : 1000000 ≤ o.micros.natAbs
    · rw [if_pos h, if_neg (by omega)]
    · rw [if_neg h, if_pos (by omega)]
      rfl
  have hseconds : (o.micros.natAbs / 1000000 / 3600 * 60 + o.micros.natAbs / 1000000 / 60 % 60) * 60
      + o.micros.natAbs / 1000000 % 60 = o.micros.natAbs / 1000000 := by omega
  have hsum :
      o.micros.natAbs / 1000000 * 1000000 + o.micros.natAbs % 1000000 = o.micros.natAbs := by
    omega
  rw [toList_isoOffset, readOffset?_cons hsign (readClock?_zoneChars hbound) rfl, hasRead]
  simp only [hseconds, hsum, hminus, decide_eq_true_eq]
  congr 1
  split <;> split <;> omega

/-! ### Moments -/

def dayChars (date : Date) : List Char :=
  lastDigits 4 date.year ++ '-' :: (lastDigits 2 date.month ++ '-' :: lastDigits 2 date.day)

def offsetChars (offset : Option Offset) : List Char :=
  (offset.map fun o => (isoOffset o).toList).getD []

def isoChars (m : Moment) : List Char :=
  dayChars m.date ++ 'T' ::
    (clockChars m.clock.hour m.clock.minute m.clock.second m.clock.micro ++ offsetChars m.offset)

theorem toList_iso (m : Moment) : m.iso.toList = isoChars m := by
  have hoffset : ((m.offset.map isoOffset).getD "").toList = offsetChars m.offset := by
    cases m.offset <;> rfl
  have hhyphen : "-".toList = ['-'] := rfl
  have hcolon : ":".toList = [':'] := rfl
  have hmiddle : "T".toList = ['T'] := rfl
  simp only [iso, isoChars, dayChars, clockChars, padded, String.toList_append, String.toList_ofList,
    toList_isoMicros, hoffset, hhyphen, hcolon, hmiddle, List.append_assoc, List.cons_append,
    List.nil_append]

theorem forall_mem_clockChars {p : Char → Prop} (hdigit : ∀ d : Fin 10, p (Nat.digitChar d))
    (hcolon : p ':') (hpoint : p '.') (hour minute second micro : Nat) :
    ∀ c ∈ clockChars hour minute second micro, p c := by
  have hdigits {width n : Nat} : ∀ c ∈ lastDigits width n, p c := fun c hc => by
    obtain ⟨d, rfl⟩ := mem_lastDigits hc
    exact hdigit d
  have hfraction : ∀ c ∈ fractionChars micro, p c := by
    unfold fractionChars
    split
    · exact fun _ hc => nomatch hc
    · exact List.forall_mem_cons.mpr ⟨hpoint, hdigits⟩
  unfold clockChars
  simp only [List.forall_mem_append, List.forall_mem_cons]
  exact ⟨hdigits, hcolon, hdigits, hcolon, hdigits, hfraction⟩

theorem forall_mem_isoChars {p : Char → Prop} (hdigit : ∀ d : Fin 10, p (Nat.digitChar d))
    (hcolon : p ':') (hpoint : p '.') (hhyphen : p '-') (hplus : p '+') (hmiddle : p 'T')
    (m : Moment) : ∀ c ∈ isoChars m, p c := by
  have hdigits {width n : Nat} : ∀ c ∈ lastDigits width n, p c := fun c hc => by
    obtain ⟨d, rfl⟩ := mem_lastDigits hc
    exact hdigit d
  have hclock := fun hour minute second micro =>
    forall_mem_clockChars (p := p) hdigit hcolon hpoint hour minute second micro
  have hzone : ∀ c ∈ offsetChars m.offset, p c := by
    cases m.offset with
    | none => exact fun _ hc => nomatch hc
    | some o =>
      show ∀ c ∈ (isoOffset o).toList, p c
      rw [toList_isoOffset, List.forall_mem_cons]
      refine ⟨?_, ?_⟩
      · unfold signChar
        split
        · exact hhyphen
        · exact hplus
      · unfold zoneChars
        split
        · exact List.forall_mem_append.mpr ⟨hdigits, List.forall_mem_cons.mpr ⟨hcolon, hdigits⟩⟩
        · exact hclock _ _ _ _
  unfold isoChars dayChars
  simp only [List.forall_mem_append, List.forall_mem_cons]
  exact ⟨⟨hdigits, hhyphen, hdigits, hhyphen, hdigits⟩, hmiddle, hclock _ _ _ _, hzone⟩

theorem readable?_of_not_mem {text : String} (h : mark ∉ text.toList) :
    readable? text = some text.toList := by
  have hcodes : codes text = text.toList.map Char.toNat := codesOf_of_not_mem h
  have hhalf : ∀ n ∈ codes text, isHalf n = false := by
    rw [hcodes]
    intro n hn
    obtain ⟨c, _, rfl⟩ := List.mem_map.mp hn
    exact isHalf_toNat c
  have hend : (dayEnds.find? fun i => ((codes text)[i]?.map isHalf).getD false) = none := by
    rw [List.find?_eq_none]
    intro i _
    cases hi : (codes text)[i]? with
    | none => exact Bool.false_ne_true
    | some n =>
      simp only [Option.map_some, Option.getD_some, hhalf n (List.mem_of_getElem? hi)]
      exact Bool.false_ne_true
  have hany : (codes text).any isHalf = false := by
    rw [List.any_eq_false]
    exact fun n hn => by rw [hhalf n hn]; exact Bool.false_ne_true
  unfold readable?
  simp only [hend, hany, Bool.false_eq_true, if_false]
  rw [hcodes, List.map_map]
  refine congrArg some (List.map_id'' ?_ _)
  exact Char.ofNat_toNat

theorem readTime?_isoChars (clock : Clock) (offset : Option Offset) :
    ∃ more, readTime? (clockChars clock.hour clock.minute clock.second clock.micro
        ++ offsetChars offset)
      = some (⟨clock.hour, clock.minute, clock.second, clock.micro, more⟩,
          offset.map fun o => o.asRead.micros) := by
  obtain ⟨hhour, hminute, hsecond, hmicro⟩ := clock.valid
  have hbody : ∀ c ∈ clockChars clock.hour clock.minute clock.second clock.micro,
      (!beginsOffset c) = true :=
    forall_mem_clockChars (by decide) (by decide) (by decide) _ _ _ _
  have hclock (next : Option Char) :
      readClock? next (clockChars clock.hour clock.minute clock.second clock.micro) = _ :=
    readClock?_clockChars (by omega) (by omega) (by omega) hmicro
  cases offset with
  | none =>
    refine ⟨false, ?_⟩
    have hzone : offsetChars none = [] := rfl
    rw [hzone, readTime?, List.takeWhile_append_of_pos hbody, List.dropWhile_append_of_pos hbody,
      List.takeWhile_nil, List.dropWhile_nil, List.append_nil]
    simp only [List.head?_nil, hclock, Option.bind_eq_bind, Option.bind_some]
    rfl
  | some o =>
    refine ⟨stands (some (signChar o)), ?_⟩
    have hzone : offsetChars (some o) = signChar o :: zoneChars o.micros.natAbs :=
      toList_isoOffset o
    have hsign : (!beginsOffset (signChar o)) = false := by
      unfold signChar
      split <;> rfl
    have hread := readOffset?_isoOffset o
    rw [toList_isoOffset] at hread
    rw [hzone, readTime?, List.takeWhile_append_of_pos hbody, List.dropWhile_append_of_pos hbody,
      List.takeWhile_cons_of_neg (by rw [hsign]; exact Bool.false_ne_true),
      List.dropWhile_cons_of_neg (by rw [hsign]; exact Bool.false_ne_true), List.append_nil]
    simp only [List.head?_cons, hclock, Option.bind_eq_bind, Option.bind_some, hread]
    rfl

theorem length_dayChars (date : Date) : (dayChars date).length = 10 := by
  simp only [dayChars, List.length_append, List.length_cons, length_lastDigits]

theorem dayEnd?_dayChars (date : Date) (c : Char) (rest : List Char) :
    dayEnd? (dayChars date ++ c :: rest) = some 10 := by
  obtain ⟨d, more, hmonth⟩ := exists_lastDigits_cons date.month Nat.two_pos
  have hfour := length_lastDigits 4 date.year
  have hlength : (dayChars date ++ c :: rest).length ≠ 7 := by
    rw [List.length_append, length_dayChars]
    omega
  have hhyphen : (dayChars date ++ c :: rest)[4]? = some '-' := by
    rw [dayChars, List.append_assoc, List.getElem?_append_right (by omega), hfour]
    rfl
  have hdigit : (dayChars date ++ c :: rest)[5]? = some (Nat.digitChar d) := by
    rw [dayChars, List.append_assoc, List.getElem?_append_right (by omega), hfour, hmonth]
    rfl
  have hw : ∀ d : Fin 10, some (Nat.digitChar d) ≠ some 'W' := by decide
  rw [dayEnd?, if_neg hlength, if_pos hhyphen, hdigit, if_pos (hw d)]

theorem readDay?_dayChars (date : Date) (rest : List Char) :
    readDay? (some 10) (dayChars date ++ rest) = some (date.year, date.month, date.day) := by
  obtain ⟨⟨_, hyear⟩, ⟨_, hmonth⟩, ⟨_, hday⟩⟩ := date.valid
  have hlength := monthLength_le date.year date.month
  obtain ⟨d, more, hmore⟩ := exists_lastDigits_cons date.month Nat.two_pos
  have hw : ∀ d : Fin 10, Nat.digitChar d ≠ 'W' := by decide
  have htakeMonth := takeNumber?_lastDigits 2 date.month ('-' :: (lastDigits 2 date.day ++ rest))
  have htakeDay := takeNumber?_lastDigits 2 date.day rest
  rw [dayChars, List.append_assoc, readDay?, takeNumber?_lastDigits]
  simp only [List.cons_append, List.append_assoc, Option.bind_eq_bind, Option.bind_some,
    List.head?_cons, beq_self_eq_true, afterHyphen?, Bool.not_true, Bool.false_eq_true, if_false]
  split
  · next heq =>
    rw [hmore] at heq
    exact absurd (List.cons.inj heq).1 (hw d)
  · rw [htakeMonth]
    simp only [Option.bind_some, htakeDay]
    refine congrArg some (Prod.ext (Nat.mod_eq_of_lt ?_) (Prod.ext (Nat.mod_eq_of_lt ?_)
      (Nat.mod_eq_of_lt ?_)))
    · exact Nat.lt_succ_of_le hyear
    · exact Nat.lt_of_le_of_lt hmonth (by decide)
    · exact Nat.lt_of_le_of_lt (Nat.le_trans hday hlength) (by decide)

end Moment

/-- What is read of the written form of a moment. -/
def Moment.asRead (m : Moment) : Moment :=
  { m with offset := m.offset.map Offset.asRead }

/-- The offset of the moment, if there is one, is no less than a second, unless it is nought. -/
def Moment.Legible (m : Moment) : Prop :=
  ∀ o, m.offset = some o → o.Legible

namespace Moment

theorem Legible.asRead_eq {m : Moment} (h : m.Legible) : m.asRead = m := by
  obtain ⟨date, clock, offset⟩ := m
  cases offset with
  | none => rfl
  | some o => rw [asRead, Option.map_some, (h o rfl).asRead_eq]

theorem asRead_eq_iff {m : Moment} : m.asRead = m ↔ m.Legible := by
  constructor
  · intro h o ho
    have hoffset : m.offset.map Offset.asRead = m.offset := congrArg Moment.offset h
    rw [ho, Option.map_some] at hoffset
    exact Offset.asRead_eq_iff.mp (Option.some.inj hoffset)
  · exact Legible.asRead_eq

theorem makeDate_date (date : Date) : makeDate date.year date.month date.day = .ok date := by
  obtain ⟨hyear, hmonth, hday⟩ := date.valid
  rw [makeDate, dif_pos hyear, dif_pos hmonth, dif_pos hday]

theorem makeClock_clock (clock : Clock) :
    makeClock clock.hour clock.minute clock.second clock.micro = .ok clock := by
  obtain ⟨hhour, hminute, hsecond⟩ := clock.valid
  rw [makeClock, dif_pos hhour, dif_pos hminute, dif_pos hsecond]

/-- Every written moment can be read. -/
theorem read_iso_eq_asRead (m : Moment) : read m.iso = .ok m.asRead := by
  have hmark : mark ∉ m.iso.toList := fun hm => by
    rw [toList_iso] at hm
    exact forall_mem_isoChars (p := (· ≠ mark)) (by decide) (by decide) (by decide) (by decide)
      (by decide) (by decide) m mark hm rfl
  obtain ⟨more, htime⟩ := readTime?_isoChars m.clock m.offset
  have hnumbers : readNumbers? m.iso = some ((m.date.year, m.date.month, m.date.day),
      ⟨m.clock.hour, m.clock.minute, m.clock.second, m.clock.micro, more⟩,
      m.offset.map fun o => o.asRead.micros) := by
    have hlength : ¬ (isoChars m).length < 7 := by
      rw [isoChars, List.length_append, length_dayChars]
      omega
    have hdrop : (isoChars m).drop 10 = 'T' ::
        (clockChars m.clock.hour m.clock.minute m.clock.second m.clock.micro
          ++ offsetChars m.offset) := List.drop_left' (length_dayChars m.date)
    rw [readNumbers?, readable?_of_not_mem hmark, toList_iso]
    simp only [Option.bind_eq_bind, Option.bind_some, if_neg hlength]
    rw [isoChars, dayEnd?_dayChars, readDay?_dayChars, ← isoChars, Option.getD_some, hdrop]
    simp only [readRest?, htime, Option.bind_some]
    rfl
  rw [read, hnumbers]
  have hoffset : (m.offset.map fun o => o.asRead.micros).mapM makeOffset
      = .ok (m.offset.map Offset.asRead) := by
    cases m.offset with
    | none => rfl
    | some o =>
      show (makeOffset o.asRead.micros).map some = _
      rw [makeOffset, dif_pos o.asRead.valid]
      rfl
  simp only [hoffset, makeDate_date, makeClock_clock, bind, Except.bind]
  rfl

theorem isEmpty_iso (m : Moment) : m.iso.isEmpty = false := by
  refine Bool.eq_false_iff.mpr fun hempty => ?_
  have hlength : (isoChars m).length = 0 := by
    rw [← toList_iso, String.isEmpty_iff.mp hempty]
    rfl
  rw [isoChars, List.length_append, length_dayChars] at hlength
  omega

theorem read_iso {m : Moment} (h : m.Legible) : read m.iso = .ok m := by
  rw [read_iso_eq_asRead, h.asRead_eq]

theorem readOffset?_eq_some {cs : List Char} {micros : Int} (h : readOffset? cs = some micros) :
    micros = 0 ∨ 1000000 ≤ micros.natAbs := by
  unfold readOffset? at h
  split at h
  · split at h
    · cases h
    · cases h
      exact .inl rfl
  · obtain ⟨c, _, h⟩ := Option.bind_eq_some_iff.mp h
    split at h
    · cases h
    · cases h
      by_cases hzero : (c.hour * 60 + c.minute) * 60 + c.second = 0
      · left
        simp only [if_pos hzero, Int.neg_zero, ite_self]
      · right
        simp only [if_neg hzero]
        split <;> omega
  · cases h

theorem readTime?_eq_some {cs : List Char} {clock : ReadClock} {micros : Int}
    (h : readTime? cs = some (clock, some micros)) : ∃ zone, readOffset? zone = some micros := by
  obtain ⟨_, _, h⟩ := Option.bind_eq_some_iff.mp h
  split at h
  · split at h <;> cases h
  · obtain ⟨_, hread, h⟩ := Option.bind_eq_some_iff.mp h
    cases h
    exact ⟨_, hread⟩

theorem legible_of_read {text : String} {m : Moment} (h : read text = .ok m) : m.Legible := by
  intro o ho
  unfold read at h
  split at h
  · cases h
  · next year month day clock micros hnumbers =>
    have hoffset : micros.mapM makeOffset = .ok m.offset := by
      cases hm : micros.mapM makeOffset with
      | error e =>
        rw [hm] at h
        cases h
      | ok offset =>
        rw [hm] at h
        simp only [bind, Except.bind] at h
        split at h
        · cases h
        · split at h
          · cases h
          · cases h
            rfl
    rw [ho] at hoffset
    cases micros with
    | none => cases hoffset
    | some micros =>
      have hlegible : micros = 0 ∨ 1000000 ≤ micros.natAbs := by
        obtain ⟨cs, _, hnumbers⟩ := Option.bind_eq_some_iff.mp hnumbers
        split at hnumbers
        · cases hnumbers
        · obtain ⟨_, _, hnumbers⟩ := Option.bind_eq_some_iff.mp hnumbers
          obtain ⟨⟨_, _⟩, hrest, hnumbers⟩ := Option.bind_eq_some_iff.mp hnumbers
          cases hnumbers
          unfold readRest? at hrest
          split at hrest
          · cases hrest
          · obtain ⟨zone, hzone⟩ := readTime?_eq_some hrest
            exact readOffset?_eq_some hzone
      have hmicros : o.micros = micros := by
        unfold makeOffset at hoffset
        simp only [Option.mapM_some] at hoffset
        split at hoffset
        · cases hoffset
          rfl
        · cases hoffset
      rw [Offset.Legible, hmicros]
      exact hlegible

end Moment

end Newswire
