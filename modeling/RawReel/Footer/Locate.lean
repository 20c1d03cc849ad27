import RawReel.FileSet

/-!
Finding the footer of a recording: the last bytes of its last file.
-/

namespace RawReel

/-- The files after the search, and the footer if there is a usable one. -/
structure FooterSearch (σ : Type) where
  files : FileSet σ
  result : Except ReadError Footer
  log : Log

namespace FooterSearch

/-- A search that ended without a footer. -/
def failed {σ : Type} (files : FileSet σ) (cause : ReadError) (log : Log) : FooterSearch σ :=
  ⟨files, .error cause, log⟩

end FooterSearch

namespace Footer

/-- Decodes and checks the bytes at the end of a recording. -/
def accept (data : Bytes) : Except FormatError Footer × Log :=
  match ofBytes data with
  | .error e => (.error e, [])
  | .ok footer =>
    match footer.validate with
    | .error e => (.error e, [.footerDecoded footer])
    | .ok _ => (.ok footer, [.footerDecoded footer, .footerFound footer])

/-- Reads the footer at the end of the last file and moves that file back to its start. A failed
read ends the search before the file is moved back. -/
def locate {σ : Type} [ByteStream σ] (files : FileSet σ) : FooterSearch σ :=
  match files.lengths.getLast? with
  | none => .failed files (.format .emptyFileSet) []
  | some length =>
    if length < size then .failed files (.format (.truncated length size)) []
    else
      let last := files.size - 1
      let access := files.readAt last (length - size) size
      match access.outcome with
      | .error e => .failed access.files (.io e) access.log
      | .ok _ =>
        match access.files.rewind last with
        | (moved, .error e) => .failed moved (.io e) access.log
        | (moved, .ok _) =>
          if access.received.length ≠ size then
            .failed moved (.format (.truncated access.received.length size)) access.log
          else
            let (result, log) := accept access.received
            ⟨moved, result.mapError .format, access.log ++ log⟩

end Footer

end RawReel
