import RawReel.Proofs.FileSet
import RawReel.Proofs.Indexing
import RawReel.Reader

/-!
# What opening a recording does

* `Footer.locate_ok`: a footer is found only at the end of a long enough last
  file, and only with a frame size;
* `survey`, `openWith_eq_introduce`: all that is checked first, and that the handler
  is given blocks only after it;
* `openWith_eq_ok_iff`: the steps that must all succeed, and the reader they give;
* `openWith_laid`: the index of a reader that was opened is that of the measured
  lengths, and its files were only read.
-/

namespace RawReel

/-- What a part of a result was evaluated to tells that there is a result. -/
theorem exists_ok_of_map {ε α β : Type} {result : Except ε α} {f : α → β} {value : β}
    (evaluated : result.toOption.map f = some value) : ∃ a, result = .ok a ∧ f a = value := by
  cases result with
  | error e => cases evaluated
  | ok a => exact ⟨a, rfl, Option.some.inj evaluated⟩

namespace Footer

theorem frameBytes_pos {f : Footer} (h : ¬ f.frameSize ≤ 0) : 0 < f.frameBytes := by
  rw [Int32.not_le, Int32.lt_iff_toInt_lt] at h
  exact Int.pos_iff_toNat_pos.mp h

theorem accept_ok {data : Bytes} {footer : Footer} (accepted : (accept data).1 = .ok footer) :
    ofBytes data = .ok footer ∧ 0 < footer.frameBytes := by
  unfold accept at accepted
  split at accepted
  · cases accepted
  · next decoded found =>
    split at accepted
    · cases accepted
    · next valid =>
      cases accepted
      refine ⟨found, frameBytes_pos fun le => ?_⟩
      rw [validate, if_pos le] at valid
      cases valid

/-- The bytes of a footer that declares frames of `frameSize` bytes, `frameCount`
of them, one a second. -/
def plain (frameSize frameCount : UInt8) : Bytes :=
  [0x52, 0x41, 0x57, 0x4D, 0, 0, 0, 0, frameSize, 0, 0, 0, frameCount, 0, 0, 0,
    0, 0, 0, 0, 0xE8, 0x03, 0, 0] ++ List.replicate 168 0

@[simp] theorem length_plain (frameSize frameCount : UInt8) :
    (plain frameSize frameCount).length = size := by
  rw [plain, List.length_append, List.length_replicate]
  rfl

section
variable {σ : Type} [ByteStream σ]

/-- The search only reads the last file and rewinds it. -/
theorem locate_accessed (files : FileSet σ) : files.Accessed (locate files).files := by
  unfold locate
  split
  · exact .refl
  · split
    · exact .refl
    · next length _ _ =>
      have start : files.Accessed files := .refl
      have read := start.read (files.size - 1) (length - size) size
      have rewound := FileSet.Accessed.rewind (files.size - 1) read
      dsimp only
      split
      · exact read
      · split
        · next rewind_eq => rwa [rewind_eq] at rewound
        · next rewind_eq =>
          rw [rewind_eq] at rewound
          split <;> exact rewound

/-- A footer that was found stands at the end of the last file. -/
theorem locate_ok {files : FileSet σ} {footer : Footer}
    (found : (locate files).result = .ok footer) :
    ∃ length, files.lengths.getLast? = some length ∧ size ≤ length ∧
      (files.readAt (files.size - 1) (length - size) size).outcome = .ok () ∧
      ofBytes (files.readAt (files.size - 1) (length - size) size).received = .ok footer ∧
      0 < footer.frameBytes := by
  unfold locate at found
  split at found
  · cases found
  · next length last =>
    split at found
    · cases found
    · next long =>
      refine ⟨length, last, Nat.le_of_not_lt long, ?_⟩
      dsimp only at found
      split at found
      · cases found
      · next outcome =>
        split at found
        · cases found
        · split at found
          · cases found
          · refine ⟨outcome, accept_ok ?_⟩
            dsimp only at found
            cases accepted : (accept _).1 with
            | error e => rw [accepted] at found; cases found
            | ok _ => rw [accepted] at found; cases found; rfl

end

end Footer

namespace Reader

section
variable {σ η : Type}

/-- The reader of a recording whose footer was found, before the handler was
given anything. -/
def ofFooter (files : FileSet σ) (footer : Footer) (handler : η) : Reader σ η :=
  let index :=
    (BlockIndex.build files.lengths Footer.size footer.frameBytes footer.rate).value
  { files := some files
    footer := footer
    fileHeader := .synthesize footer files.size index.size
    rawInfo := .ofFooter footer
    index := index
    buffer := .blank footer.frameBytes
    handler := handler
    cursor := 0 }

/-- What a reader owes to the lengths that its files had when it was opened. -/
structure Laid (r : Reader σ η) (lengths : List Nat) : Prop where
  index_eq : r.index = (BlockIndex.build lengths Footer.size r.frameSize r.footer.rate).value
  frameSize_eq : r.frameSize = r.footer.frameBytes
  frameSize_pos : 0 < r.frameSize
  footer_fits : ∃ last, lengths.getLast? = some last ∧ Footer.size ≤ last

theorem Laid.withFiles {r : Reader σ η} {lengths : List Nat} (laid : r.Laid lengths)
    (files : Option (FileSet σ)) : Laid { r with files } lengths :=
  ⟨laid.index_eq, laid.frameSize_eq, laid.frameSize_pos, laid.footer_fits⟩

theorem Laid.get?_index {r : Reader σ η} {lengths : List Nat} (laid : r.Laid lengths) {index : Nat}
    (indexed : index < r.blockCount) :
    r.index.get? index =
      some (BlockIndex.describeFrame lengths r.frameSize r.footer.rate index) := by
  rw [blockCount, laid.index_eq, BlockIndex.size_build] at indexed
  rw [laid.index_eq, BlockIndex.get?_build, if_pos indexed]

theorem Laid.frame_before_footer {r : Reader σ η} {lengths : List Nat} (laid : r.Laid lengths)
    {index : Nat} (indexed : index < r.blockCount) :
    (index + 1) * r.frameSize + Footer.size ≤ lengths.sum := by
  rw [blockCount, laid.index_eq] at indexed
  exact (RawReel.frame_before_footer indexed).2

theorem Laid.lengths_ne_nil {r : Reader σ η} {lengths : List Nat} (laid : r.Laid lengths) :
    lengths ≠ [] := by
  rintro rfl
  obtain ⟨last, last_eq, _⟩ := laid.footer_fits
  cases last_eq

variable [BlockHandler η]

/-- What a handler itself reports on the two blocks that it is given first. -/
def introductionReports (r : Reader σ η) (handler : η) : Log :=
  let first := BlockHandler.handle handler ⟨.fileHeader r.fileHeader, r.buffer, 0, 0⟩
  first.log ++ (BlockHandler.handle first.handler ⟨.rawInfo r.rawInfo, r.buffer, 0, 0⟩).log

theorem introduce_ok {r opened : Reader σ η} (ok : (introduce r).result = .ok opened) :
    ∃ after, opened = { r with handler := after } := by
  unfold introduce at ok
  dsimp only at ok
  split at ok
  · cases ok
  · dsimp only at ok
    split at ok
    · cases ok
    · cases ok; exact ⟨_, rfl⟩

/-- A handler that accepts both blocks is introduced. -/
theorem introduce_of_accepts {r : Reader σ η} {first second : Handled η}
    (first_eq : BlockHandler.handle r.handler ⟨.fileHeader r.fileHeader, r.buffer, 0, 0⟩ = first)
    (first_ok : first.outcome = .ok ())
    (second_eq : BlockHandler.handle first.handler ⟨.rawInfo r.rawInfo, r.buffer, 0, 0⟩ = second)
    (second_ok : second.outcome = .ok ()) :
    (introduce r).result = .ok { r with handler := second.handler } := by
  simp only [introduce, dispatch, first_eq, first_ok, second_eq, second_ok]

theorem introduce_handler {r opened : Reader σ η} (ok : (introduce r).result = .ok opened) :
    (introduce r).handler = opened.handler := by
  unfold introduce at ok ⊢
  dsimp only at ok ⊢
  split at ok
  · cases ok
  · dsimp only at ok ⊢
    split at ok
    · cases ok
    · cases ok
      rfl

variable [ByteStream σ]

/-- All that is found out about a recording before its handler is given anything. -/
def survey (failLevel : Level) (files : FileSet σ) : Except ReadError Footer :=
  match (Footer.locate files).result with
  | .error e => .error e
  | .ok footer =>
    (checkFrameCount failLevel footer.frameCount
      (ofFooter (Footer.locate files).files footer ()).index.size).map fun _ => footer

/-- The handler is given blocks only once everything else was found to be right. -/
theorem openWith_eq_introduce (failLevel : Level) (files : FileSet σ) (handler : η) :
    let opening := openWith failLevel files handler
    match survey failLevel files with
    | .error e => opening.result = .error e ∧ opening.handler = handler
    | .ok footer =>
      let introduced := introduce (ofFooter (Footer.locate files).files footer handler)
      opening.result = introduced.result ∧ opening.handler = introduced.handler := by
  cases found : (Footer.locate files).result with
  | error e => simp only [survey, openWith, found, and_self]
  | ok footer =>
    cases counted : checkFrameCount failLevel footer.frameCount
        (ofFooter (Footer.locate files).files footer ()).index.size with
    | error e =>
      simp only [ofFooter] at counted
      simp only [survey, ofFooter, openWith, found, counted, Except.map, and_self]
    | ok warning =>
      simp only [ofFooter] at counted
      simp only [survey, ofFooter, openWith, found, counted, Except.map, and_self]

/-- The handler that opening gives back is that of the reader, if there is one. -/
theorem openWith_handler {failLevel : Level} {files : FileSet σ} {handler : η} {opened : Reader σ η}
    (ok : (openWith failLevel files handler).result = .ok opened) :
    (openWith failLevel files handler).handler = opened.handler := by
  have opening := openWith_eq_introduce failLevel files handler
  cases surveyed : survey failLevel files with
  | error e =>
    rw [surveyed] at opening
    rw [opening.1] at ok
    cases ok
  | ok footer =>
    rw [surveyed] at opening
    obtain ⟨result_eq, handler_eq⟩ := opening
    rw [handler_eq]
    exact introduce_handler (result_eq ▸ ok)

/-- Opening succeeds if the footer is found, the number of frames is accepted
and the handler takes the first two blocks. -/
theorem openWith_eq_ok_iff {failLevel : Level} {files : FileSet σ} {handler : η}
    {opened : Reader σ η} :
    (openWith failLevel files handler).result = .ok opened ↔
      ∃ footer warning, (Footer.locate files).result = .ok footer ∧
        let start := ofFooter (Footer.locate files).files footer handler
        checkFrameCount failLevel footer.frameCount start.index.size = .ok warning ∧
        (introduce start).result = .ok opened := by
  unfold openWith
  constructor
  · intro ok
    dsimp only at ok
    split at ok
    · cases ok
    · next footer found =>
      split at ok
      · cases ok
      · next warning accepted => exact ⟨footer, warning, found, accepted, ok⟩
  · rintro ⟨footer, warning, found, accepted, ok⟩
    simp only [found]
    simp only [ofFooter] at accepted
    rw [accepted]
    exact ok

theorem log_openWith {failLevel : Level} {files : FileSet σ} {handler : η} {footer : Footer}
    {warning : Log} (found : (Footer.locate files).result = .ok footer)
    (accepted : checkFrameCount failLevel footer.frameCount
      (ofFooter (Footer.locate files).files footer handler).index.size = .ok warning) :
    (openWith failLevel files handler).log = (Footer.locate files).log ++
      (BlockIndex.build (Footer.locate files).files.lengths Footer.size footer.frameBytes
        footer.rate).log ++
      warning ++ (introduce (ofFooter (Footer.locate files).files footer handler)).log := by
  simp only [ofFooter] at accepted
  simp only [openWith, found]
  rw [accepted]
  rfl

/-- **A reader is laid out on the measured lengths.** Its files are those it was
opened on, some of them read or rewound. -/
theorem openWith_laid {failLevel : Level} {files : FileSet σ} {handler : η}
    {opened : Reader σ η} (ok : (openWith failLevel files handler).result = .ok opened) :
    opened.Laid files.lengths ∧ ∃ now, opened.files = some now ∧ files.Accessed now := by
  obtain ⟨footer, warning, found, _, introduced⟩ := openWith_eq_ok_iff.mp ok
  obtain ⟨after, rfl⟩ := introduce_ok introduced
  obtain ⟨last, last_eq, fits, _, _, positive⟩ := Footer.locate_ok found
  have accessed := Footer.locate_accessed files
  refine ⟨⟨?_, rfl, positive, last, last_eq, fits⟩, _, rfl, accessed⟩
  rw [← accessed.lengths_eq]
  rfl

theorem openWith_isReady {failLevel : Level} {files : FileSet σ} {handler : η}
    {opened : Reader σ η} (ok : (openWith failLevel files handler).result = .ok opened) :
    opened.isReady = true := by
  obtain ⟨_, now, there, _⟩ := openWith_laid ok
  rw [isReady, there, Option.isSome_some]

end

end Reader

end RawReel
