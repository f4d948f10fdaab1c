-- SUMMARY: The shortest decimal text of a double reads back as this double, so no two doubles have one text.
import EthRpc.Proofs.Binary64.Rounding
import EthRpc.Proofs.Digits

/-!
# Decimals

A grid of decimals that is as fine as the doubles has a hit, so the search for
the shortest decimal never comes back with empty hands. The layout of a decimal
determines the decimal, whichever of its forms is taken.
-/

namespace EthRpc

namespace Binary64

/-! ## Decimals and the doubles nearest to them -/

/-- The double nearest to `digits * 10 ^ scale`. -/
def ofDecimal (digits : Nat) (scale : Int) : Nat :=
  nearest (decimalQuotient digits scale).1 (decimalQuotient digits scale).2

theorem readsBack_iff {code digits : Nat} {scale : Int} :
    readsBack code digits scale ↔ ofDecimal digits scale = code := by
  simp [readsBack, ofDecimal]

theorem decimalQuotient_eq (digits : Nat) (scale : Int) :
    decimalQuotient digits scale = (digits * 10 ^ scale.toNat, 10 ^ (-scale).toNat) := by
  cases scale with
  | ofNat k =>
    have hneg : (-Int.ofNat k).toNat = 0 := by simp
    rw [hneg]
    rfl
  | negSucc k =>
    have hneg : (-Int.negSucc k).toNat = k + 1 := by omega
    rw [hneg]
    exact congrArg (·, 10 ^ (k + 1)) (Nat.mul_one digits).symm

/-- Zeros at the end of the digits count into the exponent. -/
theorem ofDecimal_mul_pow (digits j : Nat) (scale : Int) :
    ofDecimal (digits * 10 ^ j) scale = ofDecimal digits (scale + j) := by
  simp only [ofDecimal, decimalQuotient_eq]
  apply nearest_congr (Nat.pow_pos (by decide)) (Nat.pow_pos (by decide))
  have hexp : j + scale.toNat + (-(scale + j)).toNat = (scale + j).toNat + (-scale).toNat := by
    omega
  calc digits * 10 ^ j * 10 ^ scale.toNat * 10 ^ (-(scale + j)).toNat
      _ = digits * 10 ^ (j + scale.toNat + (-(scale + j)).toNat) := by
        simp only [Nat.pow_add, Nat.mul_assoc]
      _ = digits * 10 ^ ((scale + j).toNat + (-scale).toNat) := by rw [hexp]
      _ = digits * 10 ^ (scale + j).toNat * 10 ^ (-scale).toNat := by
        simp only [Nat.pow_add, Nat.mul_assoc]

/-! ## The search for the shortest decimal -/

theorem roundHalfEven_eq (n d : Nat) :
    roundHalfEven n d = n / d ∨ roundHalfEven n d = n / d + 1 := by
  simp only [roundHalfEven]
  split
  · exact .inl rfl
  · split
    · exact .inr rfl
    · have hmod := Nat.mod_two_eq_zero_or_one (n / d)
      omega

theorem ofDecimal_of_onGrid {code digits : Nat} {scale : Int}
    (h : onGrid code scale = some digits) : ofDecimal digits scale = code := by
  revert h
  unfold onGrid
  dsimp only
  split
  next hbelow habove =>
    intro h
    cases h
    have hbelow := readsBack_iff.1 hbelow
    have habove := readsBack_iff.1 habove
    rcases roundHalfEven_eq _ _ with heq | heq
    · rw [heq]
      exact hbelow
    · rw [heq]
      exact habove
  next hbelow _ =>
    intro h
    cases h
    exact readsBack_iff.1 hbelow
  next _ habove =>
    intro h
    cases h
    exact readsBack_iff.1 habove
  next => nofun

theorem onGrid_of_dvd {code k : Nat} (h : 1 <<< 1074 ∣ units code * 10 ^ (k + 1)) :
    onGrid code (.negSucc k) ≠ none := by
  obtain ⟨low, hlow⟩ := h
  have hpos : 0 < 1 <<< 1074 := by decide
  have hdiv : units code * 10 ^ (k + 1) / (1 <<< 1074) = low := by
    rw [hlow]
    exact Nat.mul_div_cancel_left low hpos
  have hbelow : readsBack code low (.negSucc k) := by
    rw [readsBack_iff]
    refine (nearest_congr (Nat.pow_pos (by decide)) hpos ?_).trans (nearest_units code)
    rw [hlow, Nat.mul_comm]
    rfl
  unfold onGrid
  dsimp only
  split <;> simp_all

/-- A grid as fine as the doubles has a hit. -/
theorem onGrid_of_le {code : Nat} {scale : Int} (h : scale ≤ -1074) :
    onGrid code scale ≠ none := by
  cases scale with
  | ofNat k =>
    have hk : (k : Int) ≤ -1074 := h
    omega
  | negSucc k =>
    have hk : 1074 ≤ k + 1 := by omega
    have hone := Nat.one_shiftLeft 1074
    have hten : 2 ^ (k + 1) ∣ 10 ^ (k + 1) :=
      (Nat.pow_dvd_pow_iff (Nat.succ_ne_zero k)).2 (by decide)
    apply onGrid_of_dvd
    rw [hone]
    exact Nat.dvd_mul_left_of_dvd (Nat.dvd_trans (Nat.pow_dvd_pow 2 hk) hten) _

theorem shortestFrom_succ (code : Nat) (lead : Int) (fuel count : Nat) :
    shortestFrom code lead (fuel + 1) count =
      match onGrid code (lead - count + 1) with
      | some digits => (digits, lead - count + 1)
      | none => shortestFrom code lead fuel (count + 1) := by
  rfl

theorem ofDecimal_shortestFrom {code : Nat} {lead : Int} {fuel count : Nat} (hfuel : 0 < fuel)
    (h : lead - count - fuel + 2 ≤ -1074) :
    ofDecimal (shortestFrom code lead fuel count).1 (shortestFrom code lead fuel count).2 =
      code := by
  induction fuel generalizing count with
  | zero => cases hfuel
  | succ fuel ih =>
    rw [shortestFrom_succ]
    split
    next digits hgrid => exact ofDecimal_of_onGrid hgrid
    next hnone =>
      by_cases hlast : fuel = 0
      · subst hlast
        exact absurd hnone (onGrid_of_le (by omega))
      · exact ih (Nat.pos_of_ne_zero hlast) (by omega)

theorem ofDecimal_shortest (code : Nat) :
    ofDecimal (shortest code).1 (shortest code).2 = code :=
  ofDecimal_shortestFrom (by omega) (by omega)

/-! ## Digits at the end -/

/-- What is dropped are zeros, and each counts into the exponent. -/
theorem trimZeros_spec (ds : List Char) (scale : Int) :
    ∃ j : Nat, ds = List.replicate j '0' ++ (trimZeros ds scale).1.reverse ∧
      (trimZeros ds scale).2 = scale + j := by
  induction ds generalizing scale with
  | nil => exact ⟨0, rfl, by simp [trimZeros]⟩
  | cons c ds ih =>
    by_cases hc : c = '0'
    · subst hc
      obtain ⟨j, hds, hscale⟩ := ih (scale + 1)
      refine ⟨j + 1, ?_, ?_⟩
      · rw [trimZeros, List.replicate_succ, List.cons_append, ← hds]
      · rw [trimZeros, hscale]
        omega
    · refine ⟨0, ?_, ?_⟩
      · unfold trimZeros
        split
        next h => simp_all
        next => simp
      · unfold trimZeros
        split
        next h => simp_all
        next => simp

/-! ## Reading decimals -/

/-- What stands before the first `c`. -/
def before (c : Char) : List Char → List Char
  | [] => []
  | d :: ds => if d = c then [] else d :: before c ds

/-- What stands after the first `c`. -/
def after (c : Char) : List Char → List Char
  | [] => []
  | d :: ds => if d = c then ds else after c ds

/-- Digits and how many of them stand after the point. -/
def readMantissa? (cs : List Char) : Option (Nat × Nat) :=
  (readDigits? 10 0 (before '.' cs ++ after '.' cs)).map (·, (after '.' cs).length)

/-- A missing exponent is zero. -/
def readExponent? : List Char → Option Int
  | '-' :: cs => (readDigits? 10 0 cs).map fun n => -(n : Int)
  | cs => (readDigits? 10 0 cs).map fun n => (n : Int)

def readMagnitude? (cs : List Char) : Option Nat :=
  (readMantissa? (before 'e' cs)).bind fun (digits, places) =>
    (readExponent? (after 'e' cs)).map fun e => ofDecimal digits (e - places)

def ofText? : List Char → Option Binary64
  | '-' :: cs => (readMagnitude? cs).map (⟨true, ·⟩)
  | cs => (readMagnitude? cs).map (⟨false, ·⟩)

theorem before_append {c : Char} {as : List Char} (h : c ∉ as) (bs : List Char) :
    before c (as ++ c :: bs) = as := by
  induction as with
  | nil => simp [before]
  | cons a as ih =>
    obtain ⟨ha, has⟩ := not_or.1 (mt List.mem_cons.2 h)
    simp [before, Ne.symm ha, ih has]

theorem after_append {c : Char} {as : List Char} (h : c ∉ as) (bs : List Char) :
    after c (as ++ c :: bs) = bs := by
  induction as with
  | nil => simp [after]
  | cons a as ih =>
    obtain ⟨ha, has⟩ := not_or.1 (mt List.mem_cons.2 h)
    simp [after, Ne.symm ha, ih has]

theorem before_of_not_mem {c : Char} {as : List Char} (h : c ∉ as) : before c as = as := by
  induction as with
  | nil => rfl
  | cons a as ih =>
    obtain ⟨ha, has⟩ := not_or.1 (mt List.mem_cons.2 h)
    simp [before, Ne.symm ha, ih has]

theorem after_of_not_mem {c : Char} {as : List Char} (h : c ∉ as) : after c as = [] := by
  induction as with
  | nil => rfl
  | cons a as ih =>
    obtain ⟨ha, has⟩ := not_or.1 (mt List.mem_cons.2 h)
    simp [after, Ne.symm ha, ih has]

theorem readMantissa?_point {ws fs : List Char} {n : Nat} (hws : '.' ∉ ws)
    (h : readDigits? 10 0 (ws ++ fs) = some n) :
    readMantissa? (ws ++ '.' :: fs) = some (n, fs.length) := by
  simp [readMantissa?, before_append hws, after_append hws, h]

theorem readMantissa?_whole {ws : List Char} {n : Nat} (hws : '.' ∉ ws)
    (h : readDigits? 10 0 ws = some n) : readMantissa? ws = some (n, 0) := by
  simp [readMantissa?, before_of_not_mem hws, after_of_not_mem hws, h]

theorem readMagnitude?_plain {cs : List Char} {digits places : Nat} (he : 'e' ∉ cs)
    (h : readMantissa? cs = some (digits, places)) :
    readMagnitude? cs = some (ofDecimal digits (-places)) := by
  simp [readMagnitude?, before_of_not_mem he, after_of_not_mem he, h, readExponent?]

theorem readMagnitude?_exponent {cs es : List Char} {digits places : Nat} {e : Int}
    (he : 'e' ∉ cs) (h : readMantissa? cs = some (digits, places))
    (hes : readExponent? es = some e) :
    readMagnitude? (cs ++ 'e' :: es) = some (ofDecimal digits (e - places)) := by
  simp [readMagnitude?, before_append he, after_append he, h, hes]

theorem readExponent?_toDigits (e : Int) :
    readExponent? ((if e < 0 then ['-'] else []) ++ Nat.toDigits 10 e.natAbs) = some e := by
  have hread := readDigits?_toDigits (b := 10) (by decide) (by decide) e.natAbs
  by_cases he : e < 0
  · have habs : -(e.natAbs : Int) = e := by omega
    rw [if_pos he, List.singleton_append, readExponent?, hread]
    exact congrArg some habs
  · have hminus : '-' ∉ Nat.toDigits 10 e.natAbs := not_mem_of_readDigits? hread rfl
    have habs : (e.natAbs : Int) = e := by omega
    simp only [he, if_false, List.nil_append]
    unfold readExponent?
    split
    next cs hcs => simp [hcs] at hminus
    next => simp [hread, habs]

/-! ## Layouts -/

/-- One digit before the point, and the point only if more digits follow. -/
def mantissa : List Char → List Char
  | d :: e :: rest => d :: '.' :: e :: rest
  | ds => ds

section Layouts

variable {ds : List Char} {n : Nat} (h : readDigits? 10 0 ds = some n)

include h

theorem readDigits?_append_zeros (k : Nat) :
    readDigits? 10 0 (ds ++ List.replicate k '0') = some (n * 10 ^ k) := by
  rw [readDigits?_append, h]
  exact readDigits?_zeros (by decide) n k

theorem readDigits?_zeros_append (k : Nat) :
    readDigits? 10 0 (List.replicate k '0' ++ ds) = some n := by
  rw [readDigits?_append, readDigits?_zeros (by decide)]
  simpa using h

/-- Zeros up to the point and one after it. -/
theorem readMagnitude?_whole (k : Nat) :
    readMagnitude? (ds ++ List.replicate k '0' ++ ['.', '0']) = some (ofDecimal n k) := by
  have hread := readDigits?_append_zeros h (k + 1)
  rw [List.replicate_succ', ← List.append_assoc] at hread
  have hpoint : '.' ∉ ds ++ List.replicate k '0' :=
    not_mem_of_readDigits? (readDigits?_append_zeros h k) rfl
  have hexp : 'e' ∉ ds ++ List.replicate k '0' ++ ['.', '0'] := by
    have he : 'e' ∉ ds ++ List.replicate k '0' :=
      not_mem_of_readDigits? (readDigits?_append_zeros h k) rfl
    simpa using he
  rw [readMagnitude?_plain hexp (readMantissa?_point hpoint hread), ofDecimal_mul_pow]
  congr 2
  simp only [List.length_singleton]
  omega

/-- A point among the digits. -/
theorem readMagnitude?_inside {p : Nat} (hp : p ≤ ds.length) :
    readMagnitude? (ds.take p ++ ['.'] ++ ds.drop p) =
      some (ofDecimal n (p - ds.length)) := by
  have hpoint : '.' ∉ ds.take p :=
    fun hmem => not_mem_of_readDigits? h rfl (List.mem_of_mem_take hmem)
  have hread : readDigits? 10 0 (ds.take p ++ ds.drop p) = some n := by
    rw [List.take_append_drop]
    exact h
  have hmantissa := readMantissa?_point hpoint hread
  have hexp : 'e' ∉ ds.take p ++ '.' :: ds.drop p := by
    have he : 'e' ∉ ds := not_mem_of_readDigits? h rfl
    have htake : 'e' ∉ ds.take p := fun hmem => he (List.mem_of_mem_take hmem)
    have hdrop : 'e' ∉ ds.drop p := fun hmem => he (List.mem_of_mem_drop hmem)
    simp [htake, hdrop]
  rw [List.append_assoc, List.singleton_append, readMagnitude?_plain hexp hmantissa]
  congr 2
  rw [List.length_drop]
  omega

/-- Zeros between the point and the digits. -/
theorem readMagnitude?_small (k : Nat) :
    readMagnitude? (['0', '.'] ++ List.replicate k '0' ++ ds) =
      some (ofDecimal n (-(k + ds.length : Nat))) := by
  have hread : readDigits? 10 0 (['0'] ++ (List.replicate k '0' ++ ds)) = some n :=
    readDigits?_zeros_append h (k + 1)
  have hmantissa := readMantissa?_point (by decide) hread
  have hexp : 'e' ∉ ['0'] ++ '.' :: (List.replicate k '0' ++ ds) := by
    have he : 'e' ∉ List.replicate k '0' ++ ds :=
      not_mem_of_readDigits? (readDigits?_zeros_append h k) rfl
    simpa using he
  have happend : ['0', '.'] ++ List.replicate k '0' ++ ds =
      ['0'] ++ '.' :: (List.replicate k '0' ++ ds) := by simp
  rw [happend, readMagnitude?_plain hexp hmantissa]
  simp

/-- One digit before the point and an exponent. -/
theorem readMagnitude?_scientific (hne : ds ≠ []) (e : Int) :
    readMagnitude?
        (mantissa ds ++ ['e'] ++ (if e < 0 then ['-'] else []) ++ Nat.toDigits 10 e.natAbs) =
      some (ofDecimal n (e - (ds.length - 1 : Nat))) := by
  have hes := readExponent?_toDigits e
  have he : 'e' ∉ ds := not_mem_of_readDigits? h rfl
  have hpoint : '.' ∉ ds := not_mem_of_readDigits? h rfl
  match ds with
  | [] => exact absurd rfl hne
  | [d] =>
    have hmagnitude := readMagnitude?_exponent he (readMantissa?_whole hpoint h) hes
    simpa [mantissa] using hmagnitude
  | d :: f :: rest =>
    have hd : '.' ∉ [d] := by
      simp only [List.mem_cons, not_or] at hpoint
      simp [hpoint.1]
    have hmantissa : readMantissa? (d :: '.' :: f :: rest) = some (n, (f :: rest).length) :=
      readMantissa?_point hd h
    have hexp : 'e' ∉ d :: '.' :: f :: rest := by
      simp only [List.mem_cons, not_or] at he
      simp [he]
    have hmagnitude := readMagnitude?_exponent hexp hmantissa hes
    simpa [mantissa] using hmagnitude

/-- Whatever form a decimal is written in, it is the decimal that is read. -/
theorem readMagnitude?_layout (hne : ds ≠ []) (scale : Int) :
    readMagnitude? (layout ds scale) = some (ofDecimal n scale) := by
  unfold layout
  dsimp only
  split
  case isTrue hwhole =>
    rw [readMagnitude?_whole h, Int.toNat_of_nonneg hwhole.1]
  case isFalse hwhole =>
    split
    case isTrue hinside =>
      rw [readMagnitude?_inside h (by omega)]
      congr 2
      omega
    case isFalse =>
      split
      case isTrue hsmall =>
        rw [readMagnitude?_small h]
        congr 2
        omega
      case isFalse =>
        change readMagnitude? (mantissa ds ++ _ ++ _ ++ _) = _
        rw [readMagnitude?_scientific h hne]
        congr 2
        have hpos := List.length_pos_iff.2 hne
        omega

end Layouts

/-! ## Texts -/

theorem readMagnitude?_minus (cs : List Char) : readMagnitude? ('-' :: cs) = none := by
  have hminus : digitIn? 10 '-' = none := rfl
  simp [readMagnitude?, readMantissa?, before, readDigits?, hminus]

theorem ofText?_sign {cs : List Char} {code : Nat} (h : readMagnitude? cs = some code)
    (negative : Bool) :
    ofText? ((if negative then ['-'] else []) ++ cs) = some ⟨negative, code⟩ := by
  cases negative with
  | true => simp [ofText?, h]
  | false =>
    simp only [Bool.false_eq_true, if_false, List.nil_append]
    unfold ofText?
    split
    next cs =>
      rw [readMagnitude?_minus] at h
      cases h
    next => simp [h]

theorem ofDecimal_zero (scale : Int) : ofDecimal 0 scale = 0 := by
  have hpow : 0 < 10 ^ (-scale).toNat := Nat.pow_pos (by decide)
  have hunits : units 0 = 0 := rfl
  have hzero : nearest 0 (1 <<< 1074) = 0 := by
    rw [← hunits]
    exact nearest_units 0
  simp only [ofDecimal, decimalQuotient_eq, Nat.zero_mul]
  have hone : 0 < 1 <<< 1074 := by decide
  have hcross : 0 * (1 <<< 1074) = 0 * 10 ^ (-scale).toNat := by simp only [Nat.zero_mul]
  rw [nearest_congr hpow hone hcross, hzero]

/-- Digits without the zeros at their end are read as what they denote. -/
theorem readMagnitude?_trimmed {code digits : Nat} {scale : Int} (hcode : code ≠ 0)
    (h : ofDecimal digits scale = code) :
    readMagnitude? (layout (trimZeros (Nat.toDigits 10 digits).reverse scale).1
      (trimZeros (Nat.toDigits 10 digits).reverse scale).2) = some code := by
  obtain ⟨j, hdigits, hscale⟩ := trimZeros_spec (Nat.toDigits 10 digits).reverse scale
  generalize (trimZeros (Nat.toDigits 10 digits).reverse scale).1 = ds at hdigits ⊢
  generalize (trimZeros (Nat.toDigits 10 digits).reverse scale).2 = k at hscale ⊢
  have hds : Nat.toDigits 10 digits = ds ++ List.replicate j '0' := by
    have hreverse := congrArg List.reverse hdigits
    simpa using hreverse
  have hread := readDigits?_toDigits (b := 10) (by decide) (by decide) digits
  rw [hds, readDigits?_append] at hread
  obtain ⟨n, hn, hzeros⟩ := Option.bind_eq_some_iff.1 hread
  rw [readDigits?_zeros (by decide)] at hzeros
  have hvalue : ofDecimal n k = code := by
    rw [← h, ← Option.some.inj hzeros, ofDecimal_mul_pow, hscale]
  have hne : ds ≠ [] := by
    rintro rfl
    cases hn
    rw [ofDecimal_zero] at hvalue
    exact hcode hvalue.symm
  rw [readMagnitude?_layout hn hne, hvalue]

/-- A double is read back from its text. -/
theorem ofText?_text (x : Binary64) : ofText? x.text = some x := by
  obtain ⟨negative, code⟩ := x
  unfold text
  dsimp only
  split
  case isTrue hzero =>
    subst hzero
    have hread : readMagnitude? ['0', '.', '0'] = some (ofDecimal 0 (-1)) := rfl
    rw [ofDecimal_zero] at hread
    exact ofText?_sign hread negative
  case isFalse hcode =>
    exact ofText?_sign (readMagnitude?_trimmed hcode (ofDecimal_shortest code)) negative

/-! ### Characters -/

theorem mem_of_mem_trimZeros {ds : List Char} {scale : Int} {c : Char}
    (h : c ∈ (trimZeros ds scale).1) : c ∈ ds := by
  obtain ⟨j, hds, -⟩ := trimZeros_spec ds scale
  rw [hds]
  exact List.mem_append_right _ (List.mem_reverse.2 h)

/-- A layout has a point or an exponent. -/
theorem marked_layout (ds : List Char) (scale : Int) :
    '.' ∈ layout ds scale ∨ 'e' ∈ layout ds scale := by
  unfold layout
  dsimp only
  repeat' split
  all_goals simp

/-- A layout is made of its digits, decimal digits, a point, an `e` and a sign. -/
theorem mem_layout {ds : List Char} {scale : Int} {c : Char} (h : c ∈ layout ds scale) :
    c ∈ ds ∨ c.isDigit ∨ c = '.' ∨ c = 'e' ∨ c = '-' := by
  have hmantissa : c ∈ mantissa ds → c ∈ ds ∨ c = '.' := by
    unfold mantissa
    split
    · simp only [List.mem_cons]
      tauto
    · exact .inl
  have hzero : ∀ {k}, c ∈ List.replicate k '0' → c.isDigit := by
    intro k hc
    rw [(List.mem_replicate.1 hc).2]
    rfl
  unfold layout at h
  dsimp only at h
  split at h
  · simp only [List.mem_append, List.mem_cons, List.not_mem_nil, or_false] at h
    rcases h with (hc | hc) | rfl | rfl
    · exact .inl hc
    · exact .inr (.inl (hzero hc))
    · tauto
    · exact .inr (.inl rfl)
  · split at h
    · simp only [List.mem_append, List.mem_singleton] at h
      rcases h with (hc | rfl) | hc
      · exact .inl (List.mem_of_mem_take hc)
      · tauto
      · exact .inl (List.mem_of_mem_drop hc)
    · split at h
      · simp only [List.mem_append, List.mem_cons, List.not_mem_nil, or_false] at h
        rcases h with ((rfl | rfl) | hc) | hc
        · exact .inr (.inl rfl)
        · tauto
        · exact .inr (.inl (hzero hc))
        · exact .inl hc
      · change c ∈ mantissa ds ++ _ ++ _ ++ _ at h
        simp only [List.mem_append, List.mem_singleton] at h
        rcases h with ((hc | rfl) | hc) | hc
        · have hor := hmantissa hc
          tauto
        · tauto
        · split at hc
          · rw [List.mem_singleton.1 hc]
            tauto
          · cases hc
        · exact .inr (.inl (Nat.isDigit_of_mem_toDigits (by decide) (by decide) hc))

theorem marked_text (x : Binary64) : '.' ∈ x.text ∨ 'e' ∈ x.text := by
  unfold text
  dsimp only
  split
  · simp
  · rcases marked_layout _ _ with h | h
    · exact .inl (List.mem_append_right _ h)
    · exact .inr (List.mem_append_right _ h)

theorem mem_text {x : Binary64} {c : Char} (h : c ∈ x.text) :
    c.isDigit ∨ c = '.' ∨ c = 'e' ∨ c = '-' := by
  have hsign : c ∈ (if x.negative then ['-'] else []) → c = '-' := by
    split
    · exact List.mem_singleton.1
    · intro hc
      cases hc
  unfold text at h
  dsimp only at h
  split at h
  · simp only [List.mem_append, List.mem_cons, List.not_mem_nil, or_false] at h
    rcases h with hc | rfl | rfl | rfl
    · have hminus := hsign hc
      tauto
    · exact .inl rfl
    · tauto
    · exact .inl rfl
  · rcases List.mem_append.1 h with hc | hc
    · have hminus := hsign hc
      tauto
    · rcases mem_layout hc with hc | hc
      · have hmem := List.mem_reverse.1 (mem_of_mem_trimZeros hc)
        exact .inl (Nat.isDigit_of_mem_toDigits (by decide) (by decide) hmem)
      · exact hc

theorem text_injective {x y : Binary64} (h : x.text = y.text) : x = y := by
  have hx := ofText?_text x
  rw [h, ofText?_text y] at hx
  exact (Option.some.inj hx).symm

end Binary64

end EthRpc
