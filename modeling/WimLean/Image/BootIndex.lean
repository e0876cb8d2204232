import WimLean.Image.Modify

/-!
# WimLean — the image array and the boot index under add, export and delete

`hdr.boot_idx` is 0 or the number of an image, and each call that returns 0 keeps it on the
image it designated: add and export append their images after the others, and delete moves
the images after the deleted one down by one place and the boot index with them
(`wimlibDeleteImage_one_ok`, through the gap-closing loop `closeGap_take`). Only the boot
flags of add and export move it, to the image just appended.

Each function gets one lemma that says what a call returning 0 did to the image array and the
boot index; `ImageOp.apply_bootIdx_le` derives the step of the invariant from them and
`imageRun_bootIdx_le` the run.
-/

namespace WimLean

/-! ## One lemma per function -/

theorem wimlibSelectImage_eq_none {ext : Externals} {w : WimStruct} {image : Nat}
    (h : wimlibSelectImage ext w image = none) : 1 ≤ image ∧ image ≤ w.imageCount := by
  unfold wimlibSelectImage at h
  split_ifs at h with hr
  omega

theorem addNewDentryTree_ok {ext : Externals} {w w' : WimStruct} {t t' : Tapes}
    {root : List Dentry} (h : addNewDentryTree ext w t root = .ok () (w', t')) :
    ∃ hash, w' = { w with
      lookupTable := lookupTableInsert w.lookupTable (metadataEntry hash)
      imageMetadata := w.imageMetadata ++ [⟨root, hash⟩] } := by
  simp only [addNewDentryTree] at h
  split at h <;> try contradiction
  split at h <;> try contradiction
  split at h <;> try contradiction
  cases h
  exact ⟨_, rfl⟩

/-- The boot flag of `wimlib_add_image` moves the boot index to the image just appended. -/
theorem wimlibSetBootIdx_imageCount (w : WimStruct) :
    wimlibSetBootIdx w w.imageCount = { w with bootIdx := w.imageCount } := by
  simp [wimlibSetBootIdx]

theorem wimlibAddImage_ok {ext : Externals} {w w' : WimStruct} {t t' : Tapes}
    {dir : Option DiskEntry} {name : String} {boot : Bool}
    (h : wimlibAddImage ext w t dir name boot = .ok () (w', t')) :
    ∃ dentries hash, w'.imageMetadata = w.imageMetadata ++ [⟨dentries, hash⟩] ∧
      w'.bootIdx = if boot then w'.imageCount else w.bootIdx := by
  simp only [wimlibAddImage] at h
  repeat (split at h <;> try contradiction)
  all_goals
    obtain ⟨hash, rfl⟩ := addNewDentryTree_ok ‹addNewDentryTree _ _ _ _ = _›
    cases h
    subst_vars
    simp only [wimlibSetBootIdx_imageCount]
    exact ⟨_, hash, rfl, by first | rfl | rw [if_neg ‹¬boot = true›]⟩

theorem exportOneImage_ok {ext : Externals} {src dest w' : WimStruct} {t t' : Tapes} {i : Nat}
    {boot : Bool} (h : exportOneImage ext src i dest t boot = .ok () (w', t')) :
    1 ≤ i ∧ i ≤ src.imageCount ∧ ∃ hash,
      w'.lookupTable = lookupTableInsert
        (addLookupTableEntriesToDestWim src (wimRootDentry src i) dest.lookupTable t).2.1
        (metadataEntry hash) ∧
      w'.imageMetadata = dest.imageMetadata ++ [⟨wimRootDentry src i, hash⟩] ∧
      w'.bootIdx = if boot then w'.imageCount else dest.bootIdx := by
  simp only [exportOneImage] at h
  repeat (split at h <;> try contradiction)
  all_goals
    obtain ⟨hash, rfl⟩ := addNewDentryTree_ok ‹addNewDentryTree _ _ _ _ = _›
    cases h
    refine ⟨(wimlibSelectImage_eq_none ‹_›).1, (wimlibSelectImage_eq_none ‹_›).2, hash, ?_⟩
    simp_all [WimStruct.imageCount]

/-- The multi-image loop appends the images `i, ..., i + k - 1` in order; the boot index moves
only at the source's boot image, to its copy. -/
theorem exportAllImages_ok {ext : Externals} {src : WimStruct} {boot : Bool} :
    ∀ {k i : Nat} {dest w' : WimStruct} {t t' : Tapes},
    exportAllImages ext src boot k i dest t = .ok () (w', t') →
    ∃ imds, w'.imageMetadata = dest.imageMetadata ++ imds ∧
      imds.map (·.rootDentry) = (List.range' i k).map (wimRootDentry src) ∧
      w'.bootIdx = if boot ∧ i ≤ src.bootIdx ∧ src.bootIdx < i + k
        then dest.imageCount + (src.bootIdx - i) + 1 else dest.bootIdx
  | 0, i, dest, t, w', t', h => by
    cases h
    refine ⟨[], by simp, by simp, ?_⟩
    split_ifs <;> omega
  | k + 1, i, dest, t, w', t', h => by
    simp only [exportAllImages] at h
    split at h <;> try contradiction
    next w₁ t₁ h₁ =>
    obtain ⟨-, -, hash, -, hmd₁, hboot₁⟩ := exportOneImage_ok h₁
    obtain ⟨imds, hmd, hroots, hboot⟩ := exportAllImages_ok h
    refine ⟨⟨wimRootDentry src i, hash⟩ :: imds, by simp [hmd, hmd₁], by simp [hroots, List.range'_succ], ?_⟩
    have hcount : w₁.imageCount = dest.imageCount + 1 := by simp [WimStruct.imageCount, hmd₁]
    rw [hboot, hcount, hboot₁, hcount]
    cases boot with
    | false => simp
    | true =>
      simp only [Bool.true_and, beq_iff_eq, true_and]
      split_ifs <;> omega

/-- The source images `wimlib_export_image` exports, in order. -/
def exportedImages (src : WimStruct) : ImageSel → List Nat
  | .all => if 1 < src.imageCount then List.range' 1 src.imageCount else [1]
  | .one image => [image]

/-- Where, among the images an export appends, the copy its boot flag designates is: the copy
of the source's boot image in a multi-image export, the one image otherwise. -/
def exportedBootPos (src : WimStruct) : ImageSel → Nat
  | .all => if 1 < src.imageCount then src.bootIdx - 1 else 0
  | .one _ => 0

theorem wimlibExportImage_ok {ext : Externals} {src dest w' : WimStruct} {t t' : Tapes}
    {sel : ImageSel} {named boot : Bool}
    (h : wimlibExportImage ext src sel dest t named boot = .ok () (w', t')) :
    ∃ imds, w'.imageMetadata = dest.imageMetadata ++ imds ∧
      imds.map (·.rootDentry) = (exportedImages src sel).map (wimRootDentry src) ∧
      w'.bootIdx = (if boot ∧ exportedBootPos src sel < imds.length
        then dest.imageCount + exportedBootPos src sel + 1 else dest.bootIdx) ∧
      (boot → src.bootIdx ≤ src.imageCount → exportedBootPos src sel < imds.length) := by
  have one : ∀ {i}, exportOneImage ext src i dest t boot = .ok () (w', t') →
      ∃ imds, w'.imageMetadata = dest.imageMetadata ++ imds ∧
        imds.map (·.rootDentry) = [wimRootDentry src i] ∧
        w'.bootIdx = (if boot ∧ 0 < imds.length then dest.imageCount + 0 + 1 else dest.bootIdx) ∧
        (boot → src.bootIdx ≤ src.imageCount → 0 < imds.length) := by
    intro i h
    obtain ⟨-, -, hash, -, hmd, hboot⟩ := exportOneImage_ok h
    refine ⟨[⟨wimRootDentry src i, hash⟩], hmd, rfl, ?_, fun _ _ => Nat.one_pos⟩
    simp [hboot, WimStruct.imageCount, hmd]
  cases sel with
  | one image => exact one h
  | all =>
    simp only [wimlibExportImage] at h
    simp only [exportedImages, exportedBootPos]
    split_ifs at h ⊢ with hn hb hnamed
    · obtain ⟨imds, hmd, hroots, hboot⟩ := exportAllImages_ok h
      have hlen : imds.length = src.imageCount := by simpa using congrArg List.length hroots
      refine ⟨imds, hmd, hroots, ?_, fun hboot hle => by simp only [hboot, true_and] at hb; omega⟩
      rw [hboot]
      cases boot <;> simp only [Bool.false_eq_true, false_and, if_false, true_and] at hb ⊢
      split_ifs <;> omega
    · exact one h

theorem getElem?_closeGap : ∀ (md : List ImageMetadata) (i k j : Nat), i + k < md.length →
    (closeGap md i k)[j]? = if i ≤ j ∧ j < i + k then md[j + 1]? else md[j]?
  | md, i, 0, j, _ => by
    simp only [closeGap]
    split_ifs <;> first | rfl | omega
  | md, i, k + 1, j, h => by
    rw [closeGap, getElem?_closeGap _ (i + 1) k j (by simp; omega)]
    have hi : i + 1 < md.length := by omega
    rcases lt_trichotomy j i with hj | rfl | hj
    · rw [if_neg (by omega), if_neg (by omega), List.getElem?_set_ne (by omega)]
    · rw [if_neg (by omega), if_pos (by omega), List.getElem?_set_self (by omega),
        List.getD_eq_getElem?_getD, List.getElem?_eq_getElem hi, Option.getD_some]
    · rw [List.getElem?_set_ne (by omega), List.getElem?_set_ne (by omega)]
      split_ifs <;> first | rfl | omega

/-- **The gap-closing loop removes the image.** Shifting the images after position `i` down
by one and dropping the last place leaves the array without its `i`-th element. -/
theorem closeGap_take {md : List ImageMetadata} {i : Nat} (h : i < md.length) :
    (closeGap md i (md.length - 1 - i)).take (md.length - 1) = md.eraseIdx i := by
  apply List.ext_getElem?
  intro j
  rw [List.getElem?_take, getElem?_closeGap _ _ _ _ (by omega), List.getElem?_eraseIdx]
  split_ifs <;> first | omega | rfl | (symm; exact List.getElem?_eq_none (by omega))

theorem deleteOneImage_ok {ext : Externals} {w w' : WimStruct} {t t' : Tapes} {k : Nat}
    (h : deleteOneImage ext w t k = .ok () (w', t')) :
    1 ≤ k ∧ k ≤ w.imageCount ∧ t' = t ∧
      w'.lookupTable = lookupTableRemove
        (freeDentryTree (wimGetCurrentImageMetadata w k).rootDentry w.lookupTable)
        (wimGetCurrentImageMetadata w k).metadataHash ∧
      w'.imageMetadata = w.imageMetadata.eraseIdx (k - 1) ∧
      w'.bootIdx = if w.bootIdx = k then 0 else if k < w.bootIdx then w.bootIdx - 1 else w.bootIdx := by
  simp only [deleteOneImage] at h
  split at h <;> try contradiction
  next hsel =>
  obtain ⟨hk1, hk⟩ := wimlibSelectImage_eq_none hsel
  cases h
  refine ⟨hk1, hk, rfl, rfl, ?_, by simp only [gt_iff_lt]⟩
  have := @closeGap_take w.imageMetadata (k - 1) (by unfold WimStruct.imageCount at hk; omega)
  rwa [show w.imageMetadata.length - 1 - (k - 1) = w.imageCount - k by
    unfold WimStruct.imageCount; omega] at this

/-- `WIM_ALL_IMAGES`: deleting image 1 `k` times drops the first `k` images, and each time
the boot index moves down by one or stays 0. -/
theorem deleteFirstImages_ok {ext : Externals} :
    ∀ {k : Nat} {w w' : WimStruct} {t t' : Tapes}, deleteFirstImages ext k w t = .ok () (w', t') →
    w'.imageMetadata = w.imageMetadata.drop k ∧ w'.bootIdx = w.bootIdx - k
  | 0, w, w', t, t', h => by cases h; simp
  | k + 1, w, w', t, t', h => by
    simp only [deleteFirstImages] at h
    split at h <;> try contradiction
    next w₁ t₁ h₁ =>
    obtain ⟨-, -, -, -, hmd₁, hboot₁⟩ := deleteOneImage_ok h₁
    obtain ⟨hmd, hboot⟩ := deleteFirstImages_ok h
    refine ⟨by simp [hmd, hmd₁, List.drop_drop, Nat.add_comm], ?_⟩
    rw [hboot, hboot₁]
    split_ifs <;> omega

theorem wimlibDeleteImage_all_ok {ext : Externals} {w w' : WimStruct} {t t' : Tapes}
    (hb : w.bootIdx ≤ w.imageCount) (h : wimlibDeleteImage ext w t .all = .ok () (w', t')) :
    w'.imageMetadata = [] ∧ w'.bootIdx = 0 := by
  obtain ⟨hmd, hboot⟩ := deleteFirstImages_ok h
  exact ⟨by simpa [WimStruct.imageCount] using hmd, by omega⟩

/-! ## The boot index stays 0 or an image number -/

/-- **The step.** Every call that returns 0 keeps `boot_idx` at 0 or an image number. -/
theorem ImageOp.apply_bootIdx_le {w w' : WimStruct} {t t' : Tapes} {op : ImageOp}
    (hb : w.bootIdx ≤ w.imageCount) (h : op.apply w t = .ok () (w', t')) :
    w'.bootIdx ≤ w'.imageCount := by
  cases op with
  | addImage ext dir name boot =>
    obtain ⟨_, _, hmd, hboot⟩ := wimlibAddImage_ok h
    have : w'.imageCount = w.imageCount + 1 := by simp [WimStruct.imageCount, hmd]
    split_ifs at hboot <;> omega
  | exportImage ext src sel named boot =>
    obtain ⟨imds, hmd, -, hboot⟩ := wimlibExportImage_ok h
    have : w'.imageCount = w.imageCount + imds.length := by simp [WimStruct.imageCount, hmd]
    split_ifs at hboot <;> omega
  | deleteImage ext sel =>
    cases sel with
    | all =>
      obtain ⟨-, hboot⟩ := wimlibDeleteImage_all_ok hb h
      omega
    | one k =>
      obtain ⟨hk1, hk, -, -, hmd, hboot⟩ := deleteOneImage_ok h
      have : w'.imageCount = w.imageCount - 1 := by
        simp only [WimStruct.imageCount] at hk ⊢
        rw [hmd, List.length_eraseIdx_of_lt (by omega)]
      split_ifs at hboot <;> omega

/-- **The run.** Along every sequence of calls returning 0, from a WIM whose boot index is 0
or an image number, it stays so. -/
theorem imageRun_bootIdx_le :
    ∀ {w w' : WimStruct} {t t' : Tapes} {ops : List ImageOp}, w.bootIdx ≤ w.imageCount →
    imageRun w t ops = some (w', t') → w'.bootIdx ≤ w'.imageCount
  | _, _, _, _, [], hb, h => by cases h; exact hb
  | w, _, t, _, op :: ops, hb, h => by
    simp only [imageRun] at h
    split at h <;> try contradiction
    exact imageRun_bootIdx_le (ImageOp.apply_bootIdx_le hb ‹_›) h

/-! ## The boot index keeps designating its image -/

theorem bootImage_of_append_same {w w' : WimStruct} {imds : List ImageMetadata}
    (hmd : w'.imageMetadata = w.imageMetadata ++ imds) (hb : w.bootIdx ≤ w.imageCount)
    (hboot : w'.bootIdx = w.bootIdx) : w'.bootImage = w.bootImage := by
  unfold WimStruct.bootImage WimStruct.imageCount at *
  rw [hboot, hmd]
  split_ifs
  · rfl
  · exact List.getElem?_append_left (by omega)

theorem bootImage_of_append_new {w w' : WimStruct} {imds : List ImageMetadata} {p : Nat}
    (hmd : w'.imageMetadata = w.imageMetadata ++ imds)
    (hboot : w'.bootIdx = w.imageCount + p + 1) : w'.bootImage = imds[p]? := by
  unfold WimStruct.bootImage WimStruct.imageCount at *
  rw [hboot, hmd, if_neg (by omega), List.getElem?_append_right (by omega)]
  congr 1
  omega

theorem bootImage_of_eraseIdx {w w' : WimStruct} {k : Nat} (hk1 : 1 ≤ k)
    (hmd : w'.imageMetadata = w.imageMetadata.eraseIdx (k - 1))
    (hboot : w'.bootIdx =
      if w.bootIdx = k then 0 else if k < w.bootIdx then w.bootIdx - 1 else w.bootIdx) :
    w'.bootImage = if w.bootIdx = k then none else w.bootImage := by
  unfold WimStruct.bootImage
  rw [hboot, hmd]
  split_ifs <;> first | rfl | omega | skip
  · rw [List.getElem?_eraseIdx_of_ge _ _ _ (by omega)]
    congr 1
    omega
  · exact List.getElem?_eraseIdx_of_lt _ _ _ (by omega)

/-! ## The boot image along a run of image operations -/

/-- **The image array and the boot index under add, export and delete.** Along every sequence
of calls returning 0, `boot_idx` stays 0 or an image number. Each call keeps it on the image
it designated, except that the boot flags of add and export move it to the image just
appended (for a multi-image export, the copy of the source's boot image), and deleting the
image it designates sets it to 0. Deleting image `k` removes the `k`-th element of
`image_metadata` and keeps the others in order; deleting `WIM_ALL_IMAGES` removes them all and
sets it to 0. -/
theorem imageOps_keep_bootImage :
    (∀ (w w' : WimStruct) (t t' : Tapes) (ops : List ImageOp), w.bootIdx ≤ w.imageCount →
      imageRun w t ops = some (w', t') → w'.bootIdx ≤ w'.imageCount) ∧
    (∀ (ext : Externals) (w w' : WimStruct) (t t' : Tapes) (dir : Option DiskEntry) (name : String)
      (boot : Bool), w.bootIdx ≤ w.imageCount →
      wimlibAddImage ext w t dir name boot = .ok () (w', t') →
      ∃ imd, w'.imageMetadata = w.imageMetadata ++ [imd] ∧
        w'.bootImage = if boot then some imd else w.bootImage) ∧
    (∀ (ext : Externals) (src dest w' : WimStruct) (t t' : Tapes) (sel : ImageSel)
      (named boot : Bool), dest.bootIdx ≤ dest.imageCount → src.bootIdx ≤ src.imageCount →
      wimlibExportImage ext src sel dest t named boot = .ok () (w', t') →
      ∃ imds, w'.imageMetadata = dest.imageMetadata ++ imds ∧
        imds.map (·.rootDentry) = (exportedImages src sel).map (wimRootDentry src) ∧
        (boot → exportedBootPos src sel < imds.length) ∧
        w'.bootImage = if boot then imds[exportedBootPos src sel]? else dest.bootImage) ∧
    (∀ (ext : Externals) (w w' : WimStruct) (t t' : Tapes) (k : Nat),
      wimlibDeleteImage ext w t (.one k) = .ok () (w', t') →
      1 ≤ k ∧ k ≤ w.imageCount ∧ w'.imageMetadata = w.imageMetadata.eraseIdx (k - 1) ∧
        w'.bootImage = if w.bootIdx = k then none else w.bootImage) ∧
    (∀ (ext : Externals) (w w' : WimStruct) (t t' : Tapes), w.bootIdx ≤ w.imageCount →
      wimlibDeleteImage ext w t .all = .ok () (w', t') → w'.imageMetadata = [] ∧ w'.bootIdx = 0) := by
  refine ⟨fun _ _ _ _ _ hb h => imageRun_bootIdx_le hb h, ?add, ?exp, ?del,
    fun _ _ _ _ _ hb h => wimlibDeleteImage_all_ok hb h⟩
  case add =>
    intro ext w w' t t' dir name boot hb h
    obtain ⟨dentries, hash, hmd, hboot⟩ := wimlibAddImage_ok h
    refine ⟨⟨dentries, hash⟩, hmd, ?_⟩
    cases boot with
    | false => exact bootImage_of_append_same hmd hb hboot
    | true => exact bootImage_of_append_new (p := 0) hmd (by simp [hboot, WimStruct.imageCount, hmd])
  case exp =>
    intro ext src dest w' t t' sel named boot hb hsrc h
    obtain ⟨imds, hmd, hroots, hboot, hpos⟩ := wimlibExportImage_ok h
    refine ⟨imds, hmd, hroots, fun hbt => hpos hbt hsrc, ?_⟩
    cases boot with
    | false => exact bootImage_of_append_same hmd hb (by simpa using hboot)
    | true => exact bootImage_of_append_new hmd (by simpa [hpos rfl hsrc] using hboot)
  case del =>
    intro ext w w' t t' k h
    obtain ⟨hk1, hk, -, -, hmd, hboot⟩ := deleteOneImage_ok h
    exact ⟨hk1, hk, hmd, bootImage_of_eraseIdx hk1 hmd hboot⟩

/-- A run on a WIM of two images whose boot image is the second: `wimlib_add_image` of an
empty directory with the boot flag, `wimlib_export_image` with the boot flag of the one image of
another WIM (a directory and a file whose stream that WIM has), then deleting image 1. Each call
returns 0; each boot flag moves the boot image to the image just appended, and the deletion
keeps it on the exported copy, now image 3 of 3. -/
theorem imageOps_keep_bootImage_addExportDelete :
    imageRun ⟨[], [⟨[], 1⟩, ⟨[], 2⟩], 2⟩ ⟨[], [8, 9]⟩
        [.addImage {} (some (.dir true [])) "a" true,
          .exportImage {} ⟨[⟨5, ⟨10, {}, 100, 10⟩, .inWim, 1⟩], [⟨[⟨true, 0⟩, ⟨false, 5⟩], 7⟩], 1⟩
            (.one 1) false true,
          .deleteImage {} (.one 1)] =
      some (⟨[metadataEntry 9, ⟨5, ⟨10, {}, 100, 10⟩, .inWim, 1⟩, metadataEntry 8],
        [⟨[], 2⟩, ⟨[⟨true, 0⟩], 8⟩, ⟨[⟨true, 0⟩, ⟨false, 5⟩], 9⟩], 3⟩, {}) ∧
    (∃ imd, [(⟨[], 1⟩ : ImageMetadata), ⟨[], 2⟩, ⟨[⟨true, 0⟩], 8⟩] = [⟨[], 1⟩, ⟨[], 2⟩, imd] ∧
      (⟨[metadataEntry 8], [⟨[], 1⟩, ⟨[], 2⟩, ⟨[⟨true, 0⟩], 8⟩], 3⟩ : WimStruct).bootImage =
        some imd) ∧
    (∃ imds, [(⟨[], 1⟩ : ImageMetadata), ⟨[], 2⟩, ⟨[⟨true, 0⟩], 8⟩, ⟨[⟨true, 0⟩, ⟨false, 5⟩], 9⟩] =
        [⟨[], 1⟩, ⟨[], 2⟩, ⟨[⟨true, 0⟩], 8⟩] ++ imds ∧
      imds.map (·.rootDentry) = [[⟨true, 0⟩, ⟨false, 5⟩]] ∧
      (⟨[metadataEntry 9, ⟨5, ⟨10, {}, 100, 10⟩, .inWim, 1⟩, metadataEntry 8],
        [⟨[], 1⟩, ⟨[], 2⟩, ⟨[⟨true, 0⟩], 8⟩, ⟨[⟨true, 0⟩, ⟨false, 5⟩], 9⟩], 4⟩ :
        WimStruct).bootImage = imds[0]?) ∧
    (⟨[metadataEntry 9, ⟨5, ⟨10, {}, 100, 10⟩, .inWim, 1⟩, metadataEntry 8],
        [⟨[], 2⟩, ⟨[⟨true, 0⟩], 8⟩, ⟨[⟨true, 0⟩, ⟨false, 5⟩], 9⟩], 3⟩ : WimStruct).bootImage =
      (⟨[metadataEntry 9, ⟨5, ⟨10, {}, 100, 10⟩, .inWim, 1⟩, metadataEntry 8],
        [⟨[], 1⟩, ⟨[], 2⟩, ⟨[⟨true, 0⟩], 8⟩, ⟨[⟨true, 0⟩, ⟨false, 5⟩], 9⟩], 4⟩ :
        WimStruct).bootImage ∧
    (⟨[metadataEntry 9, ⟨5, ⟨10, {}, 100, 10⟩, .inWim, 1⟩, metadataEntry 8],
        [⟨[], 2⟩, ⟨[⟨true, 0⟩], 8⟩, ⟨[⟨true, 0⟩, ⟨false, 5⟩], 9⟩], 3⟩ : WimStruct).bootIdx ≤ 3 := by
  have hadd : wimlibAddImage {} ⟨[], [⟨[], 1⟩, ⟨[], 2⟩], 2⟩ ⟨[], [8, 9]⟩ (some (.dir true []))
      "a" true = .ok () (⟨[metadataEntry 8], [⟨[], 1⟩, ⟨[], 2⟩, ⟨[⟨true, 0⟩], 8⟩], 3⟩,
        ⟨[], [9]⟩) := rfl
  have hexp : wimlibExportImage {}
      ⟨[⟨5, ⟨10, {}, 100, 10⟩, .inWim, 1⟩], [⟨[⟨true, 0⟩, ⟨false, 5⟩], 7⟩], 1⟩ (.one 1)
      ⟨[metadataEntry 8], [⟨[], 1⟩, ⟨[], 2⟩, ⟨[⟨true, 0⟩], 8⟩], 3⟩ ⟨[], [9]⟩ false true =
      .ok () (⟨[metadataEntry 9, ⟨5, ⟨10, {}, 100, 10⟩, .inWim, 1⟩, metadataEntry 8],
        [⟨[], 1⟩, ⟨[], 2⟩, ⟨[⟨true, 0⟩], 8⟩, ⟨[⟨true, 0⟩, ⟨false, 5⟩], 9⟩], 4⟩, {}) := rfl
  have hdel : wimlibDeleteImage {}
      ⟨[metadataEntry 9, ⟨5, ⟨10, {}, 100, 10⟩, .inWim, 1⟩, metadataEntry 8],
        [⟨[], 1⟩, ⟨[], 2⟩, ⟨[⟨true, 0⟩], 8⟩, ⟨[⟨true, 0⟩, ⟨false, 5⟩], 9⟩], 4⟩ {} (.one 1) =
      .ok () (⟨[metadataEntry 9, ⟨5, ⟨10, {}, 100, 10⟩, .inWim, 1⟩, metadataEntry 8],
        [⟨[], 2⟩, ⟨[⟨true, 0⟩], 8⟩, ⟨[⟨true, 0⟩, ⟨false, 5⟩], 9⟩], 3⟩, {}) := rfl
  have hrun : imageRun ⟨[], [⟨[], 1⟩, ⟨[], 2⟩], 2⟩ ⟨[], [8, 9]⟩
        [.addImage {} (some (.dir true [])) "a" true,
          .exportImage {} ⟨[⟨5, ⟨10, {}, 100, 10⟩, .inWim, 1⟩], [⟨[⟨true, 0⟩, ⟨false, 5⟩], 7⟩], 1⟩
            (.one 1) false true,
          .deleteImage {} (.one 1)] =
      some (⟨[metadataEntry 9, ⟨5, ⟨10, {}, 100, 10⟩, .inWim, 1⟩, metadataEntry 8],
        [⟨[], 2⟩, ⟨[⟨true, 0⟩], 8⟩, ⟨[⟨true, 0⟩, ⟨false, 5⟩], 9⟩], 3⟩, {}) := by
    simp only [imageRun, ImageOp.apply, hadd, hexp, hdel]
  obtain ⟨hbootRun, hkeepAdd, hkeepExp, hkeepDel, -⟩ := imageOps_keep_bootImage
  obtain ⟨imds, hmds, hroots, -, hboot₂⟩ :=
    hkeepExp {} _ _ _ _ _ _ false true (by decide) (by decide) hexp
  exact ⟨hrun, by simpa using hkeepAdd {} _ _ _ _ _ _ true (by decide) hadd,
    ⟨imds, hmds, hroots, hboot₂⟩, (hkeepDel {} _ _ _ _ 1 hdel).2.2.2,
    hbootRun _ _ _ _ _ (by decide) hrun⟩

end WimLean
