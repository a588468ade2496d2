import ClusterAgent.Proofs.Binary64.Arithmetic
import ClusterAgent.Proofs.Storage.Mounted
import ClusterAgent.Proofs.Storage.Selection

/-! Timestamps keep the order of modification times. A single one can be a millisecond early,
because seconds are rounded before they are multiplied, but what is rounded keeps its order. -/
namespace ClusterAgent

open Binary64

namespace Timestamp

variable {s n n' t t' : ℤ} {x : Binary64} {v : ℚ}

/-! ### Seconds -/

/-- The binary64 number that a billionth is written as. -/
def billionth : ℚ := rounded (1 / 1000000000)

theorem billionth_nonneg : 0 ≤ billionth := rounded_nonneg (by norm_num)

theorem billionth_le : billionth ≤ 4835703278458517 * 2 ^ (-82 : ℤ) := by
  have hwritten : Representable ((4835703278458517 : ℤ) * 2 ^ (-82 : ℤ)) :=
    ⟨4835703278458517, -82, by norm_num, by norm_num, rfl⟩
  exact_mod_cast rounded_le hwritten (by norm_num)

theorem toRat?_billionth : (Binary64.ofDecimal false 1 (-9)).toRat? = some billionth := by
  have hquotient : Binary64.ofDecimal false 1 (-9) = ofRatio false 1 1000000000 := by
    decide +kernel
  rw [hquotient, toRat?_ofRatio_of_lt (by norm_num) (by norm_num)]
  simp [signed, billionth]

/-- The nanoseconds of a second do not make a whole second. -/
theorem rounded_billionth_mul (h0 : 0 ≤ n) (h : n < 1000000000) :
    0 ≤ rounded (billionth * n) ∧ rounded (billionth * n) < 1 := by
  have hn : (0 : ℚ) ≤ n := by exact_mod_cast h0
  have hn' : (n : ℚ) ≤ 999999999 := by exact_mod_cast Int.lt_add_one_iff.mp h
  have hbelow : Representable (((2 ^ 53 - 1 : ℤ) : ℚ) * 2 ^ (-53 : ℤ)) :=
    ⟨2 ^ 53 - 1, -53, by norm_num, by norm_num, rfl⟩
  constructor
  · exact rounded_nonneg (mul_nonneg billionth_nonneg hn)
  · have hproduct : billionth * n ≤ ((2 ^ 53 - 1 : ℤ) : ℚ) * 2 ^ (-53 : ℤ) := by
      calc
        billionth * n ≤ 4835703278458517 * 2 ^ (-82 : ℤ) * 999999999 := by
          gcongr
          exact billionth_le
        _ ≤ ((2 ^ 53 - 1 : ℤ) : ℚ) * 2 ^ (-53 : ℤ) := by norm_num
    calc
      rounded (billionth * n) ≤ ((2 ^ 53 - 1 : ℤ) : ℚ) * 2 ^ (-53 : ℤ) := rounded_le hbelow hproduct
      _ < 1 := by norm_num

/-- The seconds that a file time of whole seconds and nanoseconds is taken for. -/
def fileValue (s n : ℤ) : ℚ := rounded (rounded s + rounded (billionth * n))

theorem fileValue_mono_nanoseconds (s : ℤ) (h : n ≤ n') : fileValue s n ≤ fileValue s n' := by
  have hcast : (n : ℚ) ≤ n' := by exact_mod_cast h
  have hproduct := mul_le_mul_of_nonneg_left hcast billionth_nonneg
  exact rounded_mono (add_le_add_right (rounded_mono hproduct) _)

/-- No time of a second is taken for more than the next second. -/
theorem fileValue_le (hs : 0 ≤ s) (h0 : 0 ≤ n) (h : n < 1000000000) :
    fileValue s n ≤ rounded (s + 1 : ℤ) := by
  obtain ⟨hnonneg, hlt⟩ := rounded_billionth_mul h0 h
  rcases lt_or_ge s (2 ^ 53) with hsmall | hlarge
  · -- the seconds are exact, so the sum is below the next second before it is rounded
    have hexact : rounded (s : ℚ) = s :=
      rounded_of_representable (representable_intCast (by rw [abs_of_nonneg hs]; omega))
    unfold fileValue
    rw [hexact]
    refine rounded_mono ?_
    push_cast
    linarith
  · -- the numbers are two or more apart, so the nanoseconds are lost
    have hcast : (2 ^ 53 : ℚ) ≤ s := by exact_mod_cast hlarge
    have hnext : (s : ℚ) ≤ (s + 1 : ℤ) := by
      push_cast
      linarith
    calc
      fileValue s n ≤ rounded s :=
        rounded_add_le (representable_rounded s) (le_rounded (representable_two_pow 53) hcast)
          hnonneg hlt
      _ ≤ rounded (s + 1 : ℤ) := rounded_mono hnext

theorem rounded_le_fileValue (s : ℤ) (h0 : 0 ≤ n) (h : n < 1000000000) :
    rounded s ≤ fileValue s n :=
  le_rounded (representable_rounded s)
    (le_add_of_nonneg_right (rounded_billionth_mul h0 h).1)

/-- The parts of a file time. -/
theorem parts_bounds (h0 : 0 ≤ t) :
    0 ≤ t / 1000000000 ∧ 0 ≤ t % 1000000000 ∧ t % 1000000000 < 1000000000 := by
  omega

theorem fileValue_mono (h0 : 0 ≤ t) (h : t ≤ t') :
    fileValue (t / 1000000000) (t % 1000000000) ≤
      fileValue (t' / 1000000000) (t' % 1000000000) := by
  obtain ⟨hs0, hn0, hn⟩ := parts_bounds h0
  obtain ⟨-, hn0', hn'⟩ := parts_bounds (h0.trans h)
  rcases (Int.ediv_le_ediv (by norm_num : (0 : ℤ) < 1000000000) h).lt_or_eq with hcarry | hsame
  · have hnext : ((t / 1000000000 + 1 : ℤ) : ℚ) ≤ (t' / 1000000000 : ℤ) := by exact_mod_cast hcarry
    calc
      fileValue (t / 1000000000) (t % 1000000000) ≤ rounded (t / 1000000000 + 1 : ℤ) :=
        fileValue_le hs0 hn0 hn
      _ ≤ rounded (t' / 1000000000 : ℤ) := rounded_mono hnext
      _ ≤ fileValue (t' / 1000000000) (t' % 1000000000) :=
        rounded_le_fileValue _ hn0' hn'
  · rw [hsame]
    exact fileValue_mono_nanoseconds _ (by omega)

/-! ### Milliseconds -/

/-- The timestamp that seconds give. -/
def millisecondsOf (v : ℚ) : ℤ := truncated (rounded (v * 1000))

theorem milliseconds_eq (hx : x.toRat? = some v) (h0 : 0 ≤ v) (h : v ≤ 2 ^ 63) :
    milliseconds x = millisecondsOf v := by
  have hthousand : (Binary64.ofInt 1000).toRat? = some ((1000 : ℤ) : ℚ) :=
    toRat?_ofInt_of_le (by norm_num)
  have hsize : |v * ((1000 : ℤ) : ℚ)| < 2 ^ 100 := by
    rw [abs_of_nonneg (by positivity)]
    push_cast
    linarith
  have hproduct := toRat?_mul_of_lt hx hthousand hsize
  unfold milliseconds
  rw [truncate_eq_ok.mpr ⟨_, hproduct, rfl⟩]
  rfl

theorem millisecondsOf_mono {v' : ℚ} (h : v ≤ v') : millisecondsOf v ≤ millisecondsOf v' := by
  have hproduct : v * 1000 ≤ v' * 1000 := by gcongr
  exact truncated_mono (rounded_mono hproduct)

/-- A thousand times a whole number of seconds has no more than 53 bits for millions of years. -/
theorem millisecondsOf_seconds (h0 : 0 ≤ s) (h : 125 * s ≤ 2 ^ 53) :
    millisecondsOf (rounded s) = 1000 * s := by
  have hseconds : Representable s := representable_intCast (by rw [abs_of_nonneg h0]; omega)
  have hproduct : (s : ℚ) * 1000 = ((125 * s : ℤ) : ℚ) * 2 ^ (3 : ℤ) := by
    push_cast
    ring
  have hwhole : (s : ℚ) * 1000 = ((1000 * s : ℤ) : ℚ) := by
    push_cast
    ring
  have hexact : Representable ((s : ℚ) * 1000) := by
    rw [hproduct]
    exact representable_of_le (by rw [abs_of_nonneg (by omega)]; exact h) (by norm_num)
  unfold millisecondsOf
  rw [rounded_of_representable hseconds, rounded_of_representable hexact, hwhole,
    truncated_intCast]

/-! ### Files -/

theorem rounded_seconds_le (h : s ≤ 2 ^ 63) : rounded s ≤ 2 ^ 63 := by
  have hcast : (s : ℚ) ≤ 2 ^ 63 := by exact_mod_cast h
  exact rounded_le (representable_two_pow 63) hcast

theorem toRat?_fileSeconds (h0 : 0 ≤ t) (h : t < 2 ^ 63 * 1000000000) :
    (fileSeconds t).toRat? = some (fileValue (t / 1000000000) (t % 1000000000)) := by
  obtain ⟨hs0, hn0, hn⟩ := parts_bounds h0
  have hs : t / 1000000000 ≤ 2 ^ 63 := by omega
  have hwhole : (ofInt (t / 1000000000)).toRat? = some (rounded (t / 1000000000 : ℤ)) :=
    toRat?_ofInt_of_lt (by rw [abs_of_nonneg hs0]; omega)
  have hrest : (ofInt (t % 1000000000)).toRat? = some ((t % 1000000000 : ℤ) : ℚ) :=
    toRat?_ofInt_of_le (by rw [abs_of_nonneg hn0]; omega)
  have hsmall : |billionth * (t % 1000000000 : ℤ)| < 2 ^ 100 := by
    have hcast0 : (0 : ℚ) ≤ (t % 1000000000 : ℤ) := by exact_mod_cast hn0
    have hcast : ((t % 1000000000 : ℤ) : ℚ) ≤ 1000000000 := by exact_mod_cast hn.le
    have hfactor : billionth ≤ 1 := billionth_le.trans (by norm_num)
    rw [abs_of_nonneg (mul_nonneg billionth_nonneg hcast0)]
    calc
      billionth * (t % 1000000000 : ℤ) ≤ 1 * 1000000000 := by gcongr
      _ < 2 ^ 100 := by norm_num
  have hproduct := toRat?_mul_of_lt toRat?_billionth hrest hsmall
  have hsum : |rounded (t / 1000000000 : ℤ) + rounded (billionth * (t % 1000000000 : ℤ))| <
      2 ^ 100 := by
    have hwhole0 : 0 ≤ rounded (t / 1000000000 : ℤ) := rounded_nonneg (by exact_mod_cast hs0)
    have hwhole_le := rounded_seconds_le hs
    obtain ⟨hrest0, hrest_lt⟩ := rounded_billionth_mul hn0 hn
    rw [abs_of_nonneg (add_nonneg hwhole0 hrest0)]
    linarith
  exact toRat?_add_of_lt hwhole hproduct hsum

theorem ofFile_eq (h0 : 0 ≤ t) (h : t < 2 ^ 63 * 1000000000) :
    ofFile t = millisecondsOf (fileValue (t / 1000000000) (t % 1000000000)) := by
  obtain ⟨hs0, hn0, hn⟩ := parts_bounds h0
  refine milliseconds_eq (toRat?_fileSeconds h0 h) ?_ ?_
  · exact (rounded_nonneg (by exact_mod_cast hs0)).trans (rounded_le_fileValue _ hn0 hn)
  · exact (fileValue_le hs0 hn0 hn).trans (rounded_seconds_le (by omega))

theorem ofFile_mono (h0 : 0 ≤ t) (h : t ≤ t') (hreach : t' < 2 ^ 63 * 1000000000) :
    ofFile t ≤ ofFile t' := by
  rw [ofFile_eq h0 (h.trans_lt hreach), ofFile_eq (h0.trans h) hreach]
  exact millisecondsOf_mono (fileValue_mono h0 h)

theorem ofFile_seconds (h0 : 0 ≤ s) (h : s < 2 ^ 63) :
    ofFile (s * 1000000000) = millisecondsOf (rounded s) := by
  have hvalue : fileValue s 0 = rounded s := by
    unfold fileValue
    rw [Int.cast_zero, mul_zero, rounded_zero, add_zero,
      rounded_of_representable (representable_rounded _)]
  rw [ofFile_eq (by omega) (by omega), Int.mul_ediv_cancel _ (by norm_num), Int.mul_emod_left,
    hvalue]

/-! ### Objects -/

theorem ofObject_eq (h0 : 0 ≤ t) (h : t < 2 ^ 63 * 1000000) :
    ofObject t = millisecondsOf (rounded (t / 1000000)) := by
  have hcast0 : (0 : ℚ) ≤ t := by exact_mod_cast h0
  have hcast : (t : ℚ) < 2 ^ 63 * 1000000 := by exact_mod_cast h
  have habs : ((t.natAbs : ℕ) : ℚ) = t := by
    rw [Nat.cast_natAbs, abs_of_nonneg h0]
  have hseconds : (t / 1000000 : ℚ) ≤ 2 ^ 63 := by
    rw [div_le_iff₀ (by norm_num)]
    exact hcast.le
  have hvalue : (ofRatio (decide (t < 0)) t.natAbs 1000000).toRat? =
      some (rounded (t / 1000000)) := by
    rw [toRat?_ofRatio_of_lt (by norm_num), habs, decide_eq_false (not_lt.mpr h0)]
    · rfl
    · rw [habs]
      push_cast
      linarith
  exact milliseconds_eq hvalue (rounded_nonneg (by positivity))
    (rounded_le (representable_two_pow 63) hseconds)

theorem ofObject_mono (h0 : 0 ≤ t) (h : t ≤ t') (hreach : t' < 2 ^ 63 * 1000000) :
    ofObject t ≤ ofObject t' := by
  have hcast : (t : ℚ) / 1000000 ≤ t' / 1000000 := by gcongr
  rw [ofObject_eq h0 (h.trans_lt hreach), ofObject_eq (h0.trans h) hreach]
  exact millisecondsOf_mono (rounded_mono hcast)

theorem ofObject_seconds (h0 : 0 ≤ s) (h : s < 2 ^ 63) :
    ofObject (s * 1000000) = millisecondsOf (rounded s) := by
  have hquotient : ((s * 1000000 : ℤ) : ℚ) / 1000000 = s := by
    push_cast
    exact mul_div_cancel_right₀ _ (by norm_num)
  rw [ofObject_eq (by omega) (by omega), hquotient]

end Timestamp

/-! ### Storage -/

namespace Storage

variable {storage : Storage} {w w' : World} {path path' : String} {s time time' : ℤ}

/-- What is stored at a path was modified at a time, in nanoseconds. Objects keep microseconds. -/
def Finds : Storage → World → String → ℤ → Prop
  | mounted _, w, path, time => ∃ p content mode, localPath path = .ok p ∧
      (Files.stat p).run w = (.ok (.file content time mode), w)
  | bucket name, w, path, time => ∃ address content,
      ObjectAddress.parse (qualifyObject name path) = .ok address ∧
        w.objects.head address = .ok ⟨content, time / 1000⟩

/-- The timestamp of a time. -/
def timestamp : Storage → ℤ → ℤ
  | mounted _, time => Timestamp.ofFile time
  | bucket _, time => Timestamp.ofObject (time / 1000)

theorem Finds.run_stat (h : storage.Finds w path time) : ∃ status,
    (storage.stat path).run w = (.ok status, w) ∧ status.modified = storage.timestamp time := by
  cases storage with
  | mounted home =>
    obtain ⟨p, content, mode, hp, hstat⟩ := h
    refine ⟨⟨(p.absolute w.workingDirectory).toUri, content.length, Timestamp.ofFile time⟩, ?_, rfl⟩
    unfold stat
    rw [Action.run_bind_of_ok (Action.run_liftM_eq_ok.mpr ⟨hp, rfl⟩), Action.run_bind_of_ok hstat,
      Action.run_bind_of_ok (run_qualifyLocal_eq_ok.mpr ⟨p, hp, rfl, rfl⟩)]
    rfl
  | bucket name =>
    obtain ⟨address, content, haddress, hhead⟩ := h
    refine ⟨⟨qualifyObject name path, content.length, Timestamp.ofObject (time / 1000)⟩, ?_, rfl⟩
    rw [run_stat_bucket haddress]
    unfold objectStatus
    rw [hhead]

theorem timestamp_mono (storage : Storage) (h0 : 0 ≤ time) (h : time ≤ time')
    (hreach : time' < 2 ^ 63 * 1000000000) : storage.timestamp time ≤ storage.timestamp time' := by
  cases storage with
  | mounted home => exact Timestamp.ofFile_mono h0 h hreach
  | bucket name => exact Timestamp.ofObject_mono (by omega) (by omega) (by omega)

theorem timestamp_seconds (storage : Storage) (h0 : 0 ≤ s) (h : s < 2 ^ 63) :
    storage.timestamp (s * 1000000000) = truncated (rounded (rounded s * 1000)) := by
  cases storage with
  | mounted home => exact Timestamp.ofFile_seconds h0 h
  | bucket name =>
    have hmicroseconds : s * 1000000000 / 1000 = s * 1000000 := by omega
    change Timestamp.ofObject (s * 1000000000 / 1000) = _
    rw [hmicroseconds]
    exact Timestamp.ofObject_seconds h0 h

/-- What was modified later has no lesser timestamp, as long as the seconds fit a word of 64 bits.
Whole seconds are rounded, and a thousand times as many once more; they are reported as they are for
more than two million years, far past the year 9999 where the dates of objects end. -/
theorem stat_inOrder (h : storage.Finds w path time) (h' : storage.Finds w' path' time')
    (h0 : 0 ≤ time) (hle : time ≤ time') (hreach : time' < 2 ^ 63 * 1000000000) :
    ∃ status status', (storage.stat path).run w = (.ok status, w) ∧
      (storage.stat path').run w' = (.ok status', w') ∧ status.modified ≤ status'.modified ∧
      ∀ s : ℤ, time = s * 1000000000 →
        status.modified = truncated (rounded (rounded s * 1000)) ∧
          (125 * s ≤ 2 ^ 53 → status.modified = 1000 * s) := by
  obtain ⟨status, hstat, hmodified⟩ := h.run_stat
  obtain ⟨status', hstat', hmodified'⟩ := h'.run_stat
  refine ⟨status, status', hstat, hstat', ?_, ?_⟩
  · rw [hmodified, hmodified']
    exact storage.timestamp_mono h0 hle hreach
  · rintro s rfl
    rw [hmodified, storage.timestamp_seconds (by omega) (by omega)]
    exact ⟨rfl, Timestamp.millisecondsOf_seconds (by omega)⟩

/-- An empty file in the root directory is found. -/
theorem finds_of_stat (name : String) (hpath : localPath path = .ok ⟨.root, [name]⟩)
    (hname : '\x00' ∉ name.toList)
    (hstat : w.files.stat w.workingDirectory ⟨.root, [name]⟩ = .ok (.file [] time 0o644)) :
    (mounted none).Finds w path time := by
  have hnameable : LocalPath.Nameable ⟨.root, [name]⟩ := List.forall_mem_singleton.mpr hname
  exact ⟨⟨.root, [name]⟩, [], 0o644, hpath, Files.run_query_eq_ok.mpr ⟨hnameable, hstat, rfl⟩⟩

/-- Two files, one of them a little after a whole second. -/
def twoTimes : World := { World.bare with
  files := [(["a"], .file [] 1000000000 0o644), (["b"], .file [] 1009000000 0o644)] }

/-- The second timestamp is a millisecond early, and still after the first, which is exact. -/
theorem stat_inOrder_twoTimes :
    (mounted none).Finds twoTimes "/a" 1000000000 ∧ (mounted none).Finds twoTimes "/b" 1009000000 ∧
    Timestamp.ofFile 1009000000 = 1008 ∧
    ∃ status status', ((mounted none).stat "/a").run twoTimes = (.ok status, twoTimes) ∧
      ((mounted none).stat "/b").run twoTimes = (.ok status', twoTimes) ∧
      status.modified ≤ status'.modified ∧ status.modified = 1000 := by
  have hfirst : (mounted none).Finds twoTimes "/a" 1000000000 :=
    finds_of_stat "a" (by decide +kernel) (by decide) (by decide +kernel)
  have hsecond : (mounted none).Finds twoTimes "/b" 1009000000 :=
    finds_of_stat "b" (by decide +kernel) (by decide) (by decide +kernel)
  obtain ⟨status, status', hstat, hstat', hle, hwhole⟩ :=
    stat_inOrder hfirst hsecond (by norm_num) (by norm_num) (by norm_num)
  exact ⟨hfirst, hsecond, by decide +kernel, status, status', hstat, hstat', hle,
    (hwhole 1 (by norm_num)).2 (by norm_num)⟩

/-- A file from more than three million years ahead. -/
def farTime : World := { World.bare with
  files := [(["a"], .file [] 100000000000001000000000 0o644)] }

/-- Whole seconds that are too many for the precision of a double are not reported exactly. -/
theorem not_exact_farTime :
    (mounted none).Finds farTime "/a" ((10 ^ 14 + 1) * 1000000000) ∧
    ∃ status, ((mounted none).stat "/a").run farTime = (.ok status, farTime) ∧
      status.modified = 100000000000000992 ∧ status.modified ≠ 1000 * (10 ^ 14 + 1) := by
  have hfinds : (mounted none).Finds farTime "/a" ((10 ^ 14 + 1) * 1000000000) :=
    finds_of_stat "a" (by decide +kernel) (by decide) (by decide +kernel)
  obtain ⟨status, hstat, hmodified⟩ := hfinds.run_stat
  have htime : status.modified = 100000000000000992 := hmodified.trans (by decide +kernel)
  refine ⟨hfinds, status, hstat, htime, ?_⟩
  rw [htime]
  norm_num

end Storage
end ClusterAgent
