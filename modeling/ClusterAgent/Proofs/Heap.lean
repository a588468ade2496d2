import ClusterAgent.Heap
import ClusterAgent.Launch.Spec
import ClusterAgent.Proofs.Binary64.Arithmetic

/-! The heap limit: it fits the budget, and it follows the budget and the ratio. -/
namespace ClusterAgent

open Binary64

/-- The exact value of a finite number. -/
def Number.toRat? : Number → Option ℚ
  | whole n => some n
  | binary x => x.toRat?

/-- What a budget times a ratio is taken for: of a binary ratio, the nearest binary64 number. -/
def Number.RoundsProduct (budget : ℤ) : Number → ℚ → Prop
  | whole n, product => product = budget * n
  | binary x, product => ∃ q, x.toRat? = some q ∧ Nearest (budget * q) product

variable {budget cap heap share : ℤ} {ratio : Number} {q : ℚ}

theorem max_sub_eq (share budget cap : ℤ) :
    (if cap < budget - share then budget - cap else share) = max share (budget - cap) := by
  split_ifs with h <;> omega

theorem heapLimit_eq_ok : heapLimit budget ratio cap = .ok heap ↔
    ∃ share, heapShare budget ratio = .ok share ∧ max share (budget - cap) = heap := by
  unfold heapLimit
  cases heapShare budget ratio with
  | error e =>
    constructor
    · intro h
      cases h
    · rintro ⟨share, h, -⟩
      cases h
  | ok share =>
    constructor
    · intro h
      exact ⟨share, rfl, (max_sub_eq share budget cap).symm.trans (Except.ok.inj h)⟩
    · rintro ⟨share', hshare, rfl⟩
      cases hshare
      exact congrArg Except.ok (max_sub_eq share budget cap)

theorem heapShare_binary {v : ℚ} (hbudget : (ofInt budget).toRat? = some v) (x : Binary64) :
    heapShare budget (.binary x) = (((ofInt budget).mul x).truncate).mapError .product := by
  obtain ⟨negative, m, e, hfinite, -⟩ := exists_of_toRat? hbudget
  unfold heapShare
  rw [hfinite]

theorem toRat?_ofInt_of_heapShare {x : Binary64} (h : heapShare budget (.binary x) = .ok share) :
    (ofInt budget).toRat? = some (rounded budget) := by
  unfold heapShare at h
  cases hbudget : ofInt budget with
  | finite negative m e =>
    have hvalue := toRat?_finite negative m e
    rw [← hbudget] at hvalue
    rw [← hbudget, hvalue, toRat?_ofInt hvalue]
  | infinity negative =>
    rw [hbudget] at h
    cases h
  | nan =>
    rw [hbudget] at h
    cases h

theorem mapError_eq_ok {ε ε' α : Type} {f : ε → ε'} {r : Except ε α} {a : α} :
    r.mapError f = .ok a ↔ r = .ok a := by
  cases r <;> simp [Except.mapError]

/-- A share is rounded twice, and then cut. -/
theorem exists_of_heapShare {x : Binary64} (h : heapShare budget (.binary x) = .ok share) :
    ∃ q, x.toRat? = some q ∧ truncated (rounded (rounded budget * q)) = share := by
  have hbudget := toRat?_ofInt_of_heapShare h
  rw [heapShare_binary hbudget, mapError_eq_ok] at h
  obtain ⟨v, hproduct, hshare⟩ := truncate_eq_ok.mp h
  obtain ⟨q, hx⟩ := exists_right_of_mul hproduct
  refine ⟨q, hx, ?_⟩
  rw [← toRat?_mul hbudget hx hproduct, hshare]

theorem heapShare_of_le {x : Binary64} (hbudget : |budget| ≤ 2 ^ 53) (hx : x.toRat? = some q)
    (hproduct : |budget * q| ≤ 2 ^ 53) :
    heapShare budget (.binary x) = .ok (truncated (rounded (budget * q))) := by
  have hexact := toRat?_ofInt_of_le hbudget
  rw [heapShare_binary hexact, mapError_eq_ok]
  exact truncate_eq_ok.mpr ⟨_, toRat?_mul_of_le hexact hx hproduct, rfl⟩

/-! ### The bound -/

/-- A share of a budget that is exact lies between nothing and the whole budget. -/
theorem exists_heapShare (hpositive : 1 ≤ budget) (hexact : budget ≤ 2 ^ 53)
    (hratio : ratio.toRat? = some q) (hq : 0 ≤ q) (hq' : q ≤ 1) :
    ∃ product, ratio.RoundsProduct budget product ∧
      heapShare budget ratio = .ok (truncated product) ∧ 0 ≤ product ∧ product ≤ budget := by
  have hbudget : (0 : ℚ) ≤ budget := by exact_mod_cast (by omega : 0 ≤ budget)
  have hlow : 0 ≤ budget * q := mul_nonneg hbudget hq
  have hhigh : budget * q ≤ budget := mul_le_of_le_one_right hbudget hq'
  cases ratio with
  | whole n =>
    obtain rfl : (n : ℚ) = q := Option.some.inj hratio
    refine ⟨budget * n, rfl, ?_, hlow, hhigh⟩
    rw [← Int.cast_mul, truncated_intCast]
    rfl
  | binary x =>
    have habs : |budget| ≤ 2 ^ 53 := by rwa [abs_of_nonneg (by omega)]
    have hlarge : (budget : ℚ) ≤ 2 ^ 53 := by exact_mod_cast hexact
    refine ⟨rounded (budget * q), ⟨q, hratio, nearest_rounded _⟩, heapShare_of_le habs hratio ?_,
      ?_, ?_⟩
    · rw [abs_of_nonneg hlow]
      exact hhigh.trans hlarge
    · rw [← rounded_zero]
      exact rounded_mono hlow
    · exact (rounded_mono hhigh).trans_eq (rounded_of_representable (representable_intCast habs))

namespace LaunchSpec

open Schema

/-- The check of the fields beside two sizes that fit. -/
def checkBeside (hfits : heap ≤ budget) (entries : List (WideText × Datum)) : Checked LaunchSpec :=
  (fun environment resources credentials =>
    LaunchSpec.mk budget heap environment resources credentials hfits) <$>
      required entries "environment" (checkTable checkString checkString)
    <*> optional entries "resources" [] (checkList .notTuple Resource.check)
    <*> optional entries "credentials" [] checkBytes

theorem required_int {entries : List (WideText × Datum)} {name : String} {i : ℤ}
    (h : Datum.entry? entries name = some (.int i)) :
    required entries name checkInteger = pure i := by
  unfold required field
  rw [h]
  rfl

/-- Once the sizes fit, they have no part in what is found wrong. -/
theorem check_eq_checkBeside (hfits : heap ≤ budget) {entries : List (WideText × Datum)}
    (hbudget : Datum.entry? entries "memory_budget_mb" = some (.int budget))
    (hheap : Datum.entry? entries "heap_limit_mb" = some (.int heap)) :
    LaunchSpec.check (.map entries) = checkBeside hfits entries := by
  have hparts : ofParts budget heap = fun environment resources credentials =>
      pure ⟨budget, heap, environment, resources, credentials, hfits⟩ := by
    funext environment resources credentials
    exact dif_pos hfits
  unfold LaunchSpec.check checkRecord checkBeside
  dsimp only
  rw [required_int hbudget, required_int hheap]
  change Checked.andThen (ofParts budget heap <$> _ <*> _ <*> _) id = _
  rw [hparts]
  cases required entries "environment" (checkTable checkString checkString) <;>
    cases optional entries "resources" [] (checkList .notTuple Resource.check) <;>
    cases optional entries "credentials" [] checkBytes <;> rfl

end LaunchSpec

/-- What the heap limit is for a budget that is exact and a ratio up to one: the share of the budget
or what the cap leaves of it, whichever is more. Specifications take it. -/
structure HeapFits (budget : ℤ) (ratio : Number) (cap : ℤ) (product : ℚ) (heap : ℤ) : Prop where
  rounds : ratio.RoundsProduct budget product
  limit : heapLimit budget ratio cap = .ok heap
  eq_max : heap = max (truncated product) (budget - cap)
  ge : max 0 (budget - cap) ≤ heap
  le : heap ≤ budget
  headroom : budget - heap = min cap (budget - truncated product)
  made : ∀ environment resources credentials,
    LaunchSpec.ofParts budget heap environment resources credentials =
      pure ⟨budget, heap, environment, resources, credentials, le⟩
  /-- What is wrong with fields that hold the two sizes is wrong with the other fields. -/
  checked : ∀ entries, Datum.entry? entries "memory_budget_mb" = some (.int budget) →
    Datum.entry? entries "heap_limit_mb" = some (.int heap) →
    LaunchSpec.check (.map entries) = LaunchSpec.checkBeside le entries

theorem heapLimit_fits (hpositive : 1 ≤ budget) (hexact : budget ≤ 2 ^ 53) (hcap : 0 ≤ cap)
    (hratio : ratio.toRat? = some q) (hq : 0 ≤ q) (hq' : q ≤ 1) :
    ∃ product heap, HeapFits budget ratio cap product heap := by
  obtain ⟨product, hproduct, hshare, hlow, hhigh⟩ :=
    exists_heapShare hpositive hexact hratio hq hq'
  have hnonneg : 0 ≤ truncated product := by
    have hmono := truncated_mono hlow
    rwa [truncated_zero] at hmono
  have hwhole : truncated product ≤ budget := by
    have hmono := truncated_mono hhigh
    rwa [truncated_intCast] at hmono
  have hfits : max (truncated product) (budget - cap) ≤ budget := by omega
  exact ⟨product, _, {
    rounds := hproduct
    limit := heapLimit_eq_ok.mpr ⟨_, hshare, rfl⟩
    eq_max := rfl
    ge := by omega
    le := hfits
    headroom := by omega
    made := fun _ _ _ => dif_pos hfits
    checked := fun _ => LaunchSpec.check_eq_checkBeside hfits }⟩

/-- Seven tenths in binary64 are less, and yet ten times that is seven once it is rounded. -/
theorem heapLimit_fits_sevenTenths : ∃ product q,
    (Number.binary (.ofDecimal false 7 (-1))).toRat? = some q ∧ 10 * q < 7 ∧
    HeapFits 10 (.binary (.ofDecimal false 7 (-1))) 500 product 7 := by
  have hratio : (Number.binary (.ofDecimal false 7 (-1))).toRat? =
      some (3152519739159347 / 4503599627370496) := by decide +kernel
  have hbudget : (1 : ℤ) ≤ 10 ∧ (10 : ℤ) ≤ 2 ^ 53 := by norm_num
  have hcap : (0 : ℤ) ≤ 500 := by norm_num
  obtain ⟨product, heap, hfits⟩ :=
    heapLimit_fits hbudget.1 hbudget.2 hcap hratio (by norm_num) (by norm_num)
  have hlimit : heapLimit 10 (.binary (.ofDecimal false 7 (-1))) 500 = .ok 7 := by decide +kernel
  obtain rfl : heap = 7 := Except.ok.inj (hfits.limit.symm.trans hlimit)
  exact ⟨product, _, hratio, by norm_num, hfits⟩

/-! ### Order -/

/-- One ratio is at most another one of its kind. -/
inductive Number.AtMost : Number → Number → Prop
  | whole {n n' : ℤ} (h : n ≤ n') : AtMost (.whole n) (.whole n')
  | binary {x x' : Binary64} {q q' : ℚ} (hx : x.toRat? = some q) (hx' : x'.toRat? = some q')
      (h : q ≤ q') : AtMost (.binary x) (.binary x')

variable {budget' cap' heap' share' : ℤ} {ratio' : Number}

theorem heapShare_mono_budget (hratio : ratio.toRat? = some q) (hq : 0 ≤ q)
    (hle : budget ≤ budget') (h : heapShare budget ratio = .ok share)
    (h' : heapShare budget' ratio = .ok share') : share ≤ share' := by
  cases ratio with
  | whole n =>
    obtain rfl : (n : ℚ) = q := Option.some.inj hratio
    have hn : 0 ≤ n := by exact_mod_cast hq
    cases h
    cases h'
    exact mul_le_mul_of_nonneg_right hle hn
  | binary x =>
    obtain ⟨r, hx, rfl⟩ := exists_of_heapShare h
    obtain ⟨r', hx', rfl⟩ := exists_of_heapShare h'
    obtain rfl : r = q := Option.some.inj (hx.symm.trans hratio)
    obtain rfl : r' = r := Option.some.inj (hx'.symm.trans hratio)
    have hbudget : rounded budget ≤ rounded budget' := rounded_mono (by exact_mod_cast hle)
    exact truncated_mono (rounded_mono (mul_le_mul_of_nonneg_right hbudget hq))

theorem heapShare_mono_ratio (hbudget : 0 ≤ budget) (hle : ratio.AtMost ratio')
    (h : heapShare budget ratio = .ok share) (h' : heapShare budget ratio' = .ok share') :
    share ≤ share' := by
  cases hle with
  | whole hn =>
    cases h
    cases h'
    exact mul_le_mul_of_nonneg_left hn hbudget
  | binary hx hx' hq =>
    obtain ⟨r, hr, rfl⟩ := exists_of_heapShare h
    obtain ⟨r', hr', rfl⟩ := exists_of_heapShare h'
    obtain rfl := Option.some.inj (hx.symm.trans hr)
    obtain rfl := Option.some.inj (hx'.symm.trans hr')
    have hrounded : 0 ≤ rounded budget := by
      rw [← rounded_zero]
      exact rounded_mono (by exact_mod_cast hbudget)
    exact truncated_mono (rounded_mono (mul_le_mul_of_nonneg_left hq hrounded))

/-- The heap limit follows the budget and the ratio, and goes against the cap. -/
theorem heapLimit_monotone :
    (∀ budget budget' ratio cap q heap heap', budget ≤ budget' →
      Number.toRat? ratio = some q → 0 ≤ q →
      heapLimit budget ratio cap = .ok heap → heapLimit budget' ratio cap = .ok heap' →
      heap ≤ heap') ∧
    (∀ budget ratio cap cap' heap, cap ≤ cap' → heapLimit budget ratio cap = .ok heap →
      ∃ heap', heapLimit budget ratio cap' = .ok heap' ∧ heap' ≤ heap) ∧
    ∀ budget ratio ratio' cap heap heap', 0 ≤ budget → Number.AtMost ratio ratio' →
      heapLimit budget ratio cap = .ok heap → heapLimit budget ratio' cap = .ok heap' →
      heap ≤ heap' := by
  refine ⟨?_, ?_, ?_⟩
  · intro budget budget' ratio cap q heap heap' hle hratio hq h h'
    obtain ⟨share, hshare, rfl⟩ := heapLimit_eq_ok.mp h
    obtain ⟨share', hshare', rfl⟩ := heapLimit_eq_ok.mp h'
    exact max_le_max (heapShare_mono_budget hratio hq hle hshare hshare') (by omega)
  · intro budget ratio cap cap' heap hle h
    obtain ⟨share, hshare, rfl⟩ := heapLimit_eq_ok.mp h
    exact ⟨_, heapLimit_eq_ok.mpr ⟨share, hshare, rfl⟩, max_le_max le_rfl (by omega)⟩
  · intro budget ratio ratio' cap heap heap' hbudget hle h h'
    obtain ⟨share, hshare, rfl⟩ := heapLimit_eq_ok.mp h
    obtain ⟨share', hshare', rfl⟩ := heapLimit_eq_ok.mp h'
    exact max_le_max (heapShare_mono_ratio hbudget hle hshare hshare') le_rfl

/-- Budgets that are rounded, one of them down and the other one up; caps of which only one is in
the way; and two ratios. -/
theorem heapLimit_monotone_rounded : ∃ heap heap' left less low high : ℤ,
    heapLimit (2 ^ 53 + 1) (.binary (.ofInt 1)) 500 = .ok heap ∧
    heapLimit (2 ^ 53 + 3) (.binary (.ofInt 1)) 500 = .ok heap' ∧ heap ≤ heap' ∧
    heapLimit 2000 (.binary (.ofDecimal false 7 (-1))) 500 = .ok left ∧
    heapLimit 2000 (.binary (.ofDecimal false 7 (-1))) 600 = .ok less ∧ less ≤ left ∧
    heapLimit 10 (.binary (.ofDecimal false 7 (-1))) 500 = .ok low ∧
    heapLimit 10 (.binary (.ofDecimal false 8 (-1))) 500 = .ok high ∧ low ≤ high := by
  obtain ⟨hbudget, hcap, hratio⟩ := heapLimit_monotone
  have hone : (Number.binary (.ofInt 1)).toRat? = some 1 := by decide +kernel
  have hheap : heapLimit (2 ^ 53 + 1) (.binary (.ofInt 1)) 500 = .ok (2 ^ 53) := by decide +kernel
  have hheap' : heapLimit (2 ^ 53 + 3) (.binary (.ofInt 1)) 500 = .ok (2 ^ 53 + 4) := by
    decide +kernel
  have hleft : heapLimit 2000 (.binary (.ofDecimal false 7 (-1))) 500 = .ok 1500 := by
    decide +kernel
  obtain ⟨less, hless, hle⟩ := hcap _ _ 500 600 _ (by norm_num) hleft
  have hlow : heapLimit 10 (.binary (.ofDecimal false 7 (-1))) 500 = .ok 7 := by decide +kernel
  have hhigh : heapLimit 10 (.binary (.ofDecimal false 8 (-1))) 500 = .ok 8 := by decide +kernel
  have hsevenTenths : (Binary64.ofDecimal false 7 (-1)).toRat? =
      some (3152519739159347 / 4503599627370496) := by decide +kernel
  have hfourFifths : (Binary64.ofDecimal false 8 (-1)).toRat? =
      some (3602879701896397 / 4503599627370496) := by decide +kernel
  exact ⟨_, _, _, less, _, _, hheap, hheap',
    hbudget _ _ _ _ 1 _ _ (by norm_num) hone (by norm_num) hheap hheap', hleft, hless, hle,
    hlow, hhigh,
    hratio _ _ _ _ _ _ (by norm_num) (.binary hsevenTenths hfourFifths (by norm_num)) hlow hhigh⟩

end ClusterAgent
