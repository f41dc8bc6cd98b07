import SupervisorRpc.Proofs.Text.Points
import SupervisorRpc.Text.Case

/-! Case.  What a code point has as its lower case is in lower case itself, so that lower-casing a text
twice is lower-casing it once, and its upper case is in upper case.  ASCII has lower and upper case in
ASCII, and what case mapping brings into a text are letters: no delimiter of ASCII comes in by it. -/

namespace SupervisorRpc

namespace CaseRun

/-- `n` is an image of the run. -/
structure Image (run : CaseRun) (n : Nat) : Prop where
  lower : run.image ≤ n
  upper : n ≤ run.image + (run.last - run.first)
  step : (n - run.image) % run.stride = 0

theorem image_of_image? {run : CaseRun} {n m : Nat} (h : run.image? n = some m) : run.Image m := by
  unfold image? at h
  split at h
  · next hn =>
    obtain ⟨hfirst, hlast, hstep⟩ := hn
    obtain rfl := Option.some.inj h
    exact ⟨by omega, by omega, by rwa [Nat.add_sub_cancel_left]⟩
  · cases h

/-- No image of `run` is mapped by `other`: the one ends before the other begins, or the other maps
every second code point and passes over the images.  In terms that are fast to compute. -/
def misses (run other : CaseRun) : Bool :=
  Nat.blt (run.image + (run.last - run.first)) other.first || Nat.blt other.last run.image ||
    (Nat.beq run.stride 2 || Nat.beq run.first run.last) && Nat.beq other.stride 2 &&
      Nat.beq ((run.image + other.first) % 2) 1

theorem image?_of_misses {run other : CaseRun} (h : run.misses other = true) {n : Nat}
    (hn : run.Image n) : other.image? n = none := by
  obtain ⟨hlower, hupper, hstep⟩ := hn
  simp only [misses, Bool.or_eq_true, Bool.and_eq_true, Nat.blt_eq, Nat.beq_eq] at h
  apply if_neg
  rintro ⟨hfirst, hlast, hother⟩
  rcases h with (hbefore | hafter) | ⟨⟨hstride, htwo⟩, hodd⟩
  · omega
  · omega
  · rw [htwo] at hother
    rcases hstride with hstride | hsingle
    · rw [hstride] at hstep
      omega
    · omega

/-- `n` is no image of the run: it lies before or behind the images, or is passed over by them. -/
def avoids (run : CaseRun) (n : Nat) : Bool :=
  Nat.blt n run.image || Nat.blt (run.image + (run.last - run.first)) n ||
    Nat.beq run.stride 2 && Nat.beq ((run.image + n) % 2) 1

theorem not_image_of_avoids {run : CaseRun} {n : Nat} (h : run.avoids n = true) : ¬run.Image n := by
  rintro ⟨hlower, hupper, hstep⟩
  simp only [avoids, Bool.or_eq_true, Bool.and_eq_true, Nat.blt_eq, Nat.beq_eq] at h
  rcases h with (hbefore | hafter) | ⟨hstride, hodd⟩
  · omega
  · omega
  · rw [hstride] at hstep
    omega

/-- The run that has `n` as its only image. -/
def single (n : Nat) : CaseRun := ⟨n, n, 1, n⟩

theorem image_single (n : Nat) : (single n).Image n := by
  refine ⟨Nat.le_refl n, ?_, ?_⟩ <;> simp [single]

end CaseRun

namespace CodePoint

variable {runs : List CaseRun} {expansions : List (Nat × List Nat)} {c d : CodePoint}

theorem mapCase_eq_self (hruns : ∀ run ∈ runs, run.image? c.val = none)
    (hexpansions : expansions.lookup c.val = none) : mapCase runs expansions c = [c] := by
  have hnone : runs.findSome? (·.image? c.val) = none := List.findSome?_eq_none_iff.mpr hruns
  rw [mapCase, hnone, hexpansions]

/-- A code point is mapped to itself, to an image in a run or to an expansion. -/
theorem mapCase_cases (runs : List CaseRun) (expansions : List (Nat × List Nat)) (c : CodePoint) :
    mapCase runs expansions c = [c] ∨
      (∃ run ∈ runs, ∃ n, run.Image n ∧ mapCase runs expansions c = [ofNat n]) ∨
      ∃ expansion ∈ expansions, mapCase runs expansions c = expansion.2.map ofNat := by
  unfold mapCase
  cases hfind : runs.findSome? (·.image? c.val) with
  | some image =>
    obtain ⟨run, hrun, himage⟩ := List.exists_of_findSome?_eq_some hfind
    exact .inr (.inl ⟨run, hrun, image, CaseRun.image_of_image? himage, rfl⟩)
  | none =>
    cases hlookup : expansions.lookup c.val with
    | some images =>
      obtain ⟨before, after, hexpansions, -⟩ := List.lookup_eq_some_iff.mp hlookup
      refine .inr (.inr ⟨(c.val, images), ?_, rfl⟩)
      rw [hexpansions]
      simp
    | none => exact .inl rfl

/-- `c` is an image in one of `runs`, or one of `extras`. -/
def IsImage (runs : List CaseRun) (extras : List Nat) (c : CodePoint) : Prop :=
  (∃ run ∈ runs, run.Image c.val) ∨ c.val ∈ extras

/-- What a case mapping writes, all of it as runs. -/
def imageRuns (runs : List CaseRun) (extras : List Nat) : List CaseRun := runs ++ extras.map .single

theorem IsImage.exists_run {extras : List Nat} (h : c.IsImage runs extras) :
    ∃ run ∈ imageRuns runs extras, run.Image c.val := by
  rcases h with ⟨run, hrun, hc⟩ | hc
  · exact ⟨run, List.mem_append_left _ hrun, hc⟩
  · exact ⟨.single c.val, List.mem_append_right _ (List.mem_map_of_mem hc), CaseRun.image_single _⟩

/-- A case mapping that leaves alone whatever it writes: the images in its runs, and `extras`, in which
its expansions are.  Of ASCII, it writes only what is between `lo` and `hi`, and nothing but its first
run maps any. -/
structure Closed (runs : List CaseRun) (expansions : List (Nat × List Nat)) (extras : List Nat)
    (lo hi : Nat) : Prop where
  misses : ((imageRuns runs extras).all fun run => runs.all run.misses) = true
  avoids : ((imageRuns runs extras).all fun run => expansions.all fun e => run.avoids e.1) = true
  expands : ∀ expansion ∈ expansions, expansion.2 ≠ []
  extra : ∀ n ∈ expansions.flatMap Prod.snd, n ∈ extras
  runs_lt : ∀ run ∈ runs, run.image + (run.last - run.first) < 0x110000
  extras_lt : ∀ n ∈ extras, n < 0x110000
  images : ∀ run ∈ imageRuns runs extras, 0x80 ≤ run.image ∨
    lo ≤ run.image ∧ run.image + (run.last - run.first) ≤ hi
  runs_wide : ∀ run ∈ runs.tail, 0x80 ≤ run.first
  expansions_wide : ∀ expansion ∈ expansions, 0x80 ≤ expansion.1

namespace Closed

variable {extras : List Nat} {lo hi : Nat} (h : Closed runs expansions extras lo hi)
include h

/-- A code point is mapped to itself, or to images. -/
theorem mapCase_images (c : CodePoint) :
    mapCase runs expansions c = [c] ∨
      mapCase runs expansions c ≠ [] ∧ ∀ d ∈ mapCase runs expansions c, d.IsImage runs extras := by
  rcases mapCase_cases runs expansions c with
    hsame | ⟨run, hrun, n, hn, himage⟩ | ⟨expansion, hexpansion, himages⟩
  · exact .inl hsame
  · have hbound := h.runs_lt run hrun
    have hval : (ofNat n).val = n := val_ofNat (by have := hn.upper; omega)
    right
    rw [himage]
    refine ⟨List.cons_ne_nil _ _, fun d hd => .inl ⟨run, hrun, ?_⟩⟩
    rw [List.mem_singleton.mp hd, hval]
    exact hn
  · right
    rw [himages]
    refine ⟨by simpa using h.expands expansion hexpansion, fun d hd => .inr ?_⟩
    obtain ⟨n, hn, rfl⟩ := List.mem_map.mp hd
    have hmem := h.extra n (List.mem_flatMap.mpr ⟨expansion, hexpansion, hn⟩)
    rwa [val_ofNat (h.extras_lt n hmem)]

/-- Images are mapped to themselves. -/
theorem mapCase_of_isImage (hc : c.IsImage runs extras) : mapCase runs expansions c = [c] := by
  obtain ⟨run, hrun, himage⟩ := hc.exists_run
  have hmisses := List.all_eq_true.mp h.misses run hrun
  have havoids := List.all_eq_true.mp h.avoids run hrun
  apply mapCase_eq_self
  · intro other hother
    exact CaseRun.image?_of_misses (List.all_eq_true.mp hmisses other hother) himage
  · rw [List.lookup_eq_none_iff]
    intro expansion hexpansion
    apply bne_iff_ne.mpr
    intro heq
    have hnot := CaseRun.not_image_of_avoids (List.all_eq_true.mp havoids expansion hexpansion)
    exact hnot (heq ▸ himage)

theorem within_of_isImage (hc : c.IsImage runs extras) : c.within lo hi = true ∨ 0x80 ≤ c.val := by
  obtain ⟨run, hrun, hlower, hupper, -⟩ := hc.exists_run
  rcases h.images run hrun with hwide | ⟨hfirst, hlast⟩
  · exact .inr (by omega)
  · exact .inl (within_iff.mpr ⟨by omega, by omega⟩)

/-- ASCII is mapped as the first run has it. -/
theorem mapCase_of_isAscii {first : CaseRun} {rest : List CaseRun} (hruns : runs = first :: rest)
    (hc : c.isAscii = true) :
    mapCase runs expansions c = ((first.image? c.val).elim [c] fun n => [ofNat n]) := by
  subst hruns
  have hlt := isAscii_iff.mp hc
  have hrest : rest.findSome? (·.image? c.val) = none := by
    rw [List.findSome?_eq_none_iff]
    intro run hrun
    have hwide := h.runs_wide run hrun
    exact if_neg (by omega)
  have hexpansions : expansions.lookup c.val = none := by
    rw [List.lookup_eq_none_iff]
    intro expansion hexpansion
    have hwide := h.expansions_wide expansion hexpansion
    exact bne_iff_ne.mpr (by omega)
  rw [mapCase, List.findSome?_cons]
  cases first.image? c.val with
  | some n => rfl
  | none =>
    dsimp only
    rw [hrest, hexpansions]
    rfl

end Closed

/-! ### Lower case -/

/-- What lower-casing writes besides the images in the runs. -/
def lowerExtras : List Nat := finalSigma.val :: lowerExpansions.flatMap Prod.snd

/-- A letter that stands in lower case for another one. -/
def LowerImage (c : CodePoint) : Prop :=
  (∃ run ∈ lowerRuns, run.Image c.val) ∨ c.val ∈ lowerExtras

theorem lower_closed : Closed lowerRuns lowerExpansions lowerExtras 0x61 0x7A where
  misses := by decide +kernel
  avoids := by decide +kernel
  expands := by decide +kernel
  extra := fun _ => List.mem_cons_of_mem _
  runs_lt := by decide +kernel
  extras_lt := by decide +kernel
  images := by decide +kernel
  runs_wide := by decide +kernel
  expansions_wide := by decide +kernel

/-- A code point is in lower case already, or its lower case is letters that stand for it. -/
theorem lower_cases (c : CodePoint) :
    c.lower = [c] ∨ c.lower ≠ [] ∧ ∀ d ∈ c.lower, d.LowerImage :=
  Closed.mapCase_images lower_closed c

namespace LowerImage

/-- Letters that stand in lower case for others are in lower case. -/
theorem lower_eq (h : c.LowerImage) : c.lower = [c] := Closed.mapCase_of_isImage lower_closed h

theorem letter (h : c.LowerImage) : c.isAsciiLower = true ∨ 0x80 ≤ c.val :=
  Closed.within_of_isImage lower_closed h

end LowerImage

/-- Of ASCII, only small letters stand in lower case for others. -/
theorem not_lowerImage (hascii : c.isAscii = true) (hsmall : c.isAsciiLower = false) :
    ¬c.LowerImage := by
  have hlt := isAscii_iff.mp hascii
  intro himage
  rcases himage.letter with hletter | hwide
  · rw [hletter] at hsmall
    cases hsmall
  · omega

theorem lowerImage_finalSigma : finalSigma.LowerImage := .inr List.mem_cons_self

theorem capitalSigma_lower : capitalSigma.lower ≠ [capitalSigma] := by decide

theorem lower_of_isAscii (h : c.isAscii = true) : c.lower = [c.asciiLower] := by
  rw [lower, Closed.mapCase_of_isAscii lower_closed rfl h, CaseRun.image?, asciiLower]
  dsimp only
  by_cases hupper : c.isAsciiUpper = true
  · have hrange := within_iff.mp hupper
    rw [if_pos (by omega), if_pos hupper, Option.elim_some]
    congr 2
    omega
  · have hrange := mt within_iff.mpr hupper
    rw [if_neg (by omega), if_neg hupper, Option.elim_none]

theorem not_isAsciiUpper_of_lower (h : c.lower = [c]) : c.isAsciiUpper = false := by
  rw [← Bool.not_eq_true]
  intro hupper
  have hrange := within_iff.mp hupper
  rw [lower_of_isAscii (isAscii_iff.mpr (by omega)), asciiLower, if_pos hupper,
    List.singleton_inj] at h
  have hval := congrArg CodePoint.val h
  rw [val_ofNat (by omega)] at hval
  omega

/-! ### Upper case -/

/-- What upper-casing writes besides the images in the runs. -/
def upperExtras : List Nat := upperExpansions.flatMap Prod.snd

theorem upper_closed : Closed upperRuns upperExpansions upperExtras 0x41 0x5A where
  misses := by decide +kernel
  avoids := by decide +kernel
  expands := by decide +kernel
  extra := fun _ => id
  runs_lt := by decide +kernel
  extras_lt := by decide +kernel
  images := by decide +kernel
  runs_wide := by decide +kernel
  expansions_wide := by decide +kernel

/-- The upper case of a code point, which may be several, begins with one that is its own. -/
theorem upper_head (c : CodePoint) : ∃ d rest, c.upper = d :: rest ∧ d.upper = [d] := by
  rcases Closed.mapCase_images upper_closed c with hsame | ⟨hne, himages⟩
  · exact ⟨c, [], hsame, hsame⟩
  · obtain ⟨d, rest, hupper⟩ := List.exists_cons_of_ne_nil hne
    have hd : d.IsImage upperRuns upperExtras := himages d (by rw [hupper]; exact List.mem_cons_self)
    exact ⟨d, rest, hupper, Closed.mapCase_of_isImage upper_closed hd⟩

/-- Of ASCII, upper-casing brings in only capitals. -/
theorem mem_upper (h : d ∈ c.upper) : d = c ∨ d.isAsciiUpper = true ∨ 0x80 ≤ d.val := by
  rcases Closed.mapCase_images upper_closed c with hsame | ⟨-, himages⟩
  · rw [upper, hsame] at h
    exact .inl (List.mem_singleton.mp h)
  · exact .inr (Closed.within_of_isImage upper_closed (himages d h))

/-- The upper case of a small letter of ASCII is one capital, whose lower case it is. -/
theorem upper_of_isAsciiLower (h : c.isAsciiLower = true) :
    ∃ d, c.upper = [d] ∧ d.isAsciiUpper = true ∧ d.asciiLower = c := by
  have hrange := within_iff.mp h
  have hval : (ofNat (0x41 + (c.val - 0x61))).val = 0x41 + (c.val - 0x61) := val_ofNat (by omega)
  have hcapital : (ofNat (0x41 + (c.val - 0x61))).isAsciiUpper = true :=
    within_iff.mpr ⟨by omega, by omega⟩
  refine ⟨ofNat (0x41 + (c.val - 0x61)), ?_, hcapital, ?_⟩
  · rw [upper, Closed.mapCase_of_isAscii upper_closed rfl (isAscii_iff.mpr (by omega)), CaseRun.image?]
    dsimp only
    rw [if_pos (by omega), Option.elim_some]
  · rw [asciiLower, if_pos hcapital]
    apply CodePoint.ext
    rw [val_ofNat (by omega)]
    omega

end CodePoint

namespace Text

open CodePoint

variable {t : Text} {c : CodePoint}

theorem mem_lowerAfter {before : Text} (h : c ∈ lowerAfter before t) :
    c ∈ t ∧ c.lower = [c] ∨ c.LowerImage := by
  induction t generalizing before with
  | nil => cases h
  | cons d t ih =>
    rw [lowerAfter, List.mem_append] at h
    rcases h with h | h
    · split at h
      · rw [List.mem_singleton.mp h]
        exact .inr lowerImage_finalSigma
      · rcases lower_cases d with hsame | ⟨-, himages⟩
        · rw [hsame, List.mem_singleton] at h
          exact .inl ⟨h ▸ List.mem_cons_self, h ▸ hsame⟩
        · exact .inr (himages c h)
    · exact (ih h).imp_left fun hc => ⟨List.mem_cons_of_mem _ hc.1, hc.2⟩

theorem mem_lower (h : c ∈ t.lower) : c ∈ t ∧ c.lower = [c] ∨ c.LowerImage := mem_lowerAfter h

/-- Lower-casing brings no ASCII code points into a text but small letters. -/
theorem mem_of_mem_lower (hascii : c.isAscii = true) (hsmall : c.isAsciiLower = false)
    (h : c ∈ t.lower) : c ∈ t :=
  ((mem_lower h).resolve_right (not_lowerImage hascii hsmall)).1

theorem lower_eq_of_mem_lower (h : c ∈ t.lower) : c.lower = [c] :=
  (mem_lower h).elim And.right LowerImage.lower_eq

theorem lowerAfter_eq_self (before : Text) (h : ∀ c ∈ t, c.lower = [c]) :
    lowerAfter before t = t := by
  induction t generalizing before with
  | nil => rfl
  | cons c t ih =>
    obtain ⟨hc, ht⟩ := List.forall_mem_cons.mp h
    have hsigma : c ≠ capitalSigma := fun heq => capitalSigma_lower (heq ▸ hc)
    rw [lowerAfter, if_neg (fun hfinal => hsigma hfinal.1), hc, ih _ ht]
    rfl

theorem lower_lower (t : Text) : t.lower.lower = t.lower :=
  lowerAfter_eq_self [] fun _ => lower_eq_of_mem_lower

theorem lower_ne_nil (h : t ≠ []) : t.lower ≠ [] := by
  cases t with
  | nil => exact absurd rfl h
  | cons c t =>
    have hc : c.lower ≠ [] := (lower_cases c).elim (fun hsame => by simp [hsame]) And.left
    rw [lower, lowerAfter]
    split <;> simp [hc]

theorem lowerAfter_of_isAscii (before : Text) (h : ∀ c ∈ t, c.isAscii = true) :
    lowerAfter before t = t.map asciiLower := by
  induction t generalizing before with
  | nil => rfl
  | cons c t ih =>
    obtain ⟨hc, ht⟩ := List.forall_mem_cons.mp h
    have hsigma : c ≠ capitalSigma := by
      rintro rfl
      exact absurd hc (by decide)
    rw [lowerAfter, if_neg (fun hfinal => hsigma hfinal.1), lower_of_isAscii hc, ih _ ht]
    rfl

theorem lower_of_isAscii (h : ∀ c ∈ t, c.isAscii = true) : t.lower = t.map asciiLower :=
  lowerAfter_of_isAscii [] h

end Text

end SupervisorRpc
