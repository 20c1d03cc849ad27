import Mathlib
import RawReel.Proofs.Opening
import RawReel.Stream.Memory

/-!
# What strict opening still only reports

A caller can ask that warnings fail the opening. Main statement:
`strict_open_warnings`. Of all that is reported while a recording is opened so,
the one thing of any urgency is that bytes are left over in front of the footer,
and it is reported exactly if the payload is not a whole number of frames.
-/

namespace RawReel

/-- Warnings and errors. -/
def Diagnostic.urgent (d : Diagnostic) : Bool := decide (d.level ≤ .warn)

section
variable {σ η : Type}

theorem accept_quiet (data : Bytes) : (Footer.accept data).2.filter Diagnostic.urgent = [] := by
  unfold Footer.accept
  split
  · rfl
  · split <;> rfl

/-- A strict check lets no warning pass. -/
theorem checkFrameCount_quiet {failLevel : Level} (strict : .warn ≤ failLevel)
    {declared : Int32} {found : Nat} {warning : Log}
    (accepted : Reader.checkFrameCount failLevel declared found = .ok warning) :
    warning.filter Diagnostic.urgent = [] := by
  unfold Reader.checkFrameCount at accepted
  split at accepted
  · cases accepted
  · split at accepted <;> cases accepted <;> rfl

theorem build_warnings {lengths : List Nat} {footerSize frameSize fpsX1000 : Nat}
    (positive : 0 < frameSize) :
    (BlockIndex.build lengths footerSize frameSize fpsX1000).log.filter Diagnostic.urgent =
      if frameSize ∣ BlockIndex.payload lengths footerSize then []
      else [.trailingBytes (BlockIndex.payload lengths footerSize % frameSize)] := by
  have warning := @BlockIndex.build_warning lengths footerSize frameSize fpsX1000 positive
  refine Eq.trans warning ?_
  simp only [Nat.dvd_iff_mod_eq_zero]
  by_cases whole : BlockIndex.payload lengths footerSize % frameSize = 0
  · rw [if_neg (by omega), if_pos whole]
  · rw [if_pos (by omega), if_neg whole]

variable [ByteStream σ]

theorem readAt_quiet (files : FileSet σ) (file offset want : Nat) :
    (files.readAt file offset want).log.filter Diagnostic.urgent = [] := by
  unfold FileSet.readAt
  split
  · rfl
  · split
    · rfl
    · dsimp only
      split <;> rfl

theorem locate_quiet (files : FileSet σ) :
    (Footer.locate files).log.filter Diagnostic.urgent = [] := by
  unfold Footer.locate
  split
  · rfl
  · split
    · rfl
    · dsimp only
      split
      · exact readAt_quiet ..
      · split
        · exact readAt_quiet ..
        · split
          · exact readAt_quiet ..
          · simp only [List.filter_append, readAt_quiet, accept_quiet, List.append_nil]

end

section
variable {σ η : Type} [BlockHandler η]

theorem introduce_warnings {r opened : Reader σ η} (ok : r.introduce.result = .ok opened) :
    r.introduce.log.filter Diagnostic.urgent =
      (r.introductionReports r.handler).filter Diagnostic.urgent := by
  unfold Reader.introduce at ok ⊢
  dsimp only at ok ⊢
  split at ok
  · cases ok
  · simp only [Reader.introductionReports, dispatch, List.filter_append]
    rfl

variable [ByteStream σ]

/-- **Strict opening fails on every warning but one.** If a recording is opened
and warnings are to fail the opening, then nothing of any urgency was reported,
but for what the handler itself reports, and but for bytes that are left over
in front of the footer: these are only reported. -/
theorem strict_open_warnings {failLevel : Level} {files : FileSet σ} {handler : η}
    {opened : Reader σ η} (strict : .warn ≤ failLevel)
    (ok : (Reader.openWith failLevel files handler).result = .ok opened) :
    (Reader.openWith failLevel files handler).log.filter Diagnostic.urgent =
      (if opened.frameSize ∣ BlockIndex.payload files.lengths Footer.size then []
        else [.trailingBytes
          (BlockIndex.payload files.lengths Footer.size % opened.frameSize)]) ++
      (opened.introductionReports handler).filter Diagnostic.urgent := by
  obtain ⟨footer, warning, found, accepted, introduced⟩ := Reader.openWith_eq_ok_iff.mp ok
  obtain ⟨after, rfl⟩ := Reader.introduce_ok introduced
  obtain ⟨_, _, _, _, _, positive⟩ := Footer.locate_ok found
  rw [Reader.log_openWith found accepted, List.filter_append, List.filter_append,
    List.filter_append, locate_quiet, (Footer.locate_accessed files).lengths_eq,
    build_warnings positive, checkFrameCount_quiet strict accepted,
    introduce_warnings introduced, List.nil_append, List.append_nil]
  rfl

end

/-- One frame of three bytes, and one byte more in front of the footer. -/
def oneByteOver : FileSet MemoryStream :=
  ⟨[⟨.ofBytes ([1, 2, 3, 4] ++ Footer.plain 3 1), 196⟩]⟩

set_option maxRecDepth 20000 in
theorem oneByteOver_opens :
    ∃ opened, (Reader.openWith .warn oneByteOver NullHandler.mk).result = .ok opened ∧
      opened.frameSize = 3 := by
  have frameSize : (Reader.openWith .warn oneByteOver NullHandler.mk).result.toOption.map
      Reader.frameSize = some 3 := by cbv
  exact exists_ok_of_map frameSize

theorem strict_open_warnings_one_byte :
    ∃ opened, (Reader.openWith .warn oneByteOver NullHandler.mk).result = .ok opened ∧
      (Reader.openWith .warn oneByteOver NullHandler.mk).log.filter Diagnostic.urgent =
        [.trailingBytes 1] := by
  obtain ⟨opened, ok, frameSize⟩ := oneByteOver_opens
  refine ⟨opened, ok, ?_⟩
  have silent : opened.introductionReports NullHandler.mk = [] := rfl
  rw [strict_open_warnings (by decide) ok, frameSize, silent]
  decide

/-- A recording is opened although warnings are to fail the opening and one was
reported. -/
theorem strict_open_lets_warning_pass :
    (∃ opened, (Reader.openWith .warn oneByteOver NullHandler.mk).result = .ok opened) ∧
    .trailingBytes 1 ∈ (Reader.openWith .warn oneByteOver NullHandler.mk).log ∧
    (Diagnostic.trailingBytes 1).level = .warn := by
  obtain ⟨opened, ok, frameSize⟩ := oneByteOver_opens
  obtain ⟨footer, warning, found, accepted, introduced⟩ := Reader.openWith_eq_ok_iff.mp ok
  obtain ⟨_, opened_eq⟩ := Reader.introduce_ok introduced
  have three : footer.frameBytes = 3 := by rw [← frameSize, opened_eq]; rfl
  have lengths : (Footer.locate oneByteOver).files.lengths = [196] :=
    (Footer.locate_accessed oneByteOver).lengths_eq
  have reported : .trailingBytes 1 ∈
      (BlockIndex.build [196] Footer.size 3 footer.rate).log.filter Diagnostic.urgent := by
    rw [build_warnings (by decide)]
    decide
  refine ⟨⟨opened, ok⟩, ?_, rfl⟩
  rw [Reader.log_openWith found accepted, lengths, three]
  simp only [List.mem_append]
  exact .inl (.inl (.inr (List.mem_filter.mp reported).1))

end RawReel
