import RawReel.Chunk
import RawReel.Proofs.Numerals
import RawReel.Proofs.Resolving

/-!
# Which chunks are found

* `ChunkExtension`: the extensions that a chunk may have;
* `member`, `members`: the chunks of a recording, spelled as the input spells
  its own extension;
* `Collected`: all members up to the first gap;
* `paths_eq_ok_iff`: what is found is collected, unless the input collapses;
* `paths_canonical`: any member that is found leads back to the same chunks;
* `named_chunk_found_iff`: the input itself is found just if no chunk in front
  of it is missing.
-/

namespace RawReel.Chunk

/-- The word `raw` in any letter case, or `R` or `r` and two digits. -/
def ChunkExtension (extension : List Char) : Prop :=
  extension.map Char.toLower = ['r', 'a', 'w'] ∨
    ∃ r tens ones, extension = [r, tens, ones] ∧ (r = 'R' ∨ r = 'r') ∧
      tens.isDigit = true ∧ ones.isDigit = true

/-- The input has the extension of a chunk. -/
def NamesChunk (input : Path) : Prop :=
  ∃ extension, input.extension? = some extension ∧ ChunkExtension extension

/-- The input without its extension. -/
def recordingName (input : Path) : List Char := input.beforeLast ++ input.stem?.getD []

/-- An extension in small letters, unless that of the input has a capital letter. -/
def spelled (input : Path) (extension : List Char) : List Char :=
  if (input.extension?.getD []).any Char.isUpper then extension
  else extension.map Char.toLower

/-- The chunk of the same recording that has the extension. -/
def member (input : Path) (extension : List Char) : Path :=
  ⟨recordingName input ++ '.' :: spelled input extension⟩

/-- The first chunk, and `count` chunks that follow it. -/
def members (input : Path) (count : Nat) : List Path :=
  member input firstExtension ::
    (List.range count).map fun n => member input (continuationExtension n)

/-- The first chunk and all that follow it up to the first gap, all of them files
and none of them twice. -/
structure Collected (tree : FileTree) (input : Path) (found : List Path) (count : Nat) : Prop where
  found_eq : found = members input count
  at_most : count ≤ maxContinuations
  files : ∀ p ∈ found, tree.isFile p = true
  gap : count = maxContinuations ∨
    tree.isFile (member input (continuationExtension count)) = false
  nodup : found.Nodup

theorem toLower_digit {c : Char} (digit : c.isDigit = true) : c.toLower = c := by
  obtain ⟨n, small, rfl⟩ := Text.exists_digitChar digit
  interval_cases n <;> rfl

theorem toUpper_digit {c : Char} (digit : c.isDigit = true) : c.toUpper = c := by
  obtain ⟨n, small, rfl⟩ := Text.exists_digitChar digit
  interval_cases n <;> rfl

theorem toLower_toUpper (chars : List Char) :
    (chars.map Char.toUpper).map Char.toLower = chars.map Char.toLower := by
  simp only [List.map_map, Function.comp_def, Char.toLower_toUpper_eq_toLower]

theorem toUpper_toLower (chars : List Char) :
    (chars.map Char.toLower).map Char.toUpper = chars.map Char.toUpper := by
  simp only [List.map_map, Function.comp_def, Char.toUpper_toLower_eq_toUpper]

/-- The letter case can be told from either side. -/
theorem toUpper_eq_first_iff (extension : List Char) :
    extension.map Char.toUpper = firstExtension ↔
      extension.map Char.toLower = ['r', 'a', 'w'] := by
  constructor
  · intro upper
    rw [← toLower_toUpper, upper]
    rfl
  · intro lower
    rw [← toUpper_toLower, lower]
    rfl

theorem isExtension_iff (extension : List Char) :
    isExtension extension = true ↔ ChunkExtension extension := by
  unfold isExtension ChunkExtension
  rw [Bool.or_eq_true, beq_iff_eq, toUpper_eq_first_iff]
  apply or_congr_right
  split
  · simp [and_assoc]
  · next not_three =>
    constructor
    · nofun
    · rintro ⟨r, tens, ones, rfl, _⟩
      exact absurd rfl (not_three r tens ones)

theorem isExtension_input_iff (input : Path) :
    isExtension (input.extension?.getD []) = true ↔ NamesChunk input := by
  rw [isExtension_iff, NamesChunk]
  cases input.extension? with
  | none => simp [ChunkExtension]
  | some extension => simp

/-- A chunk extension in capitals, as the table of chunks has it. -/
inductive Listed : List Char → Prop
  | first : Listed firstExtension
  | continuation (n : Nat) (small : n < maxContinuations) : Listed (continuationExtension n)

theorem exists_continuation_eq {n : Nat} (small : n < maxContinuations) :
    ∃ tens ones, tens.isDigit = true ∧ ones.isDigit = true ∧
      continuationExtension n = ['R', tens, ones] := by
  have two := Text.toList_paddedNat_two small
  have digits : ∀ c ∈ [Nat.digitChar (n / 10), Nat.digitChar (n % 10)], c.isDigit = true := by
    rw [← two]
    exact fun c among => Text.isDigit_of_mem_paddedNat among
  refine ⟨Nat.digitChar (n / 10), Nat.digitChar (n % 10), ?_, ?_, ?_⟩
  · exact digits _ (by simp)
  · exact digits _ (by simp)
  · rw [continuationExtension, two]

theorem continuationExtension_injective : Function.Injective continuationExtension :=
  fun _ _ same => Text.paddedNat_injective 2 (List.cons.inj same).2

theorem firstExtension_ne (n : Nat) : firstExtension ≠ continuationExtension n := by
  intro same
  have digits : ['A', 'W'] = (Text.paddedNat 2 n).toList := (List.cons.inj same).2
  have digit : 'A'.isDigit = true :=
    Text.isDigit_of_mem_paddedNat (digits ▸ List.mem_cons_self)
  cases digit

theorem ChunkExtension.listed {extension : List Char} (chunk : ChunkExtension extension) :
    Listed (extension.map Char.toUpper) := by
  obtain raw | ⟨r, tens, ones, rfl, letter, is_tens, is_ones⟩ := chunk
  · rw [(toUpper_eq_first_iff extension).mpr raw]
    exact .first
  · obtain ⟨n, small, digits⟩ := Text.exists_paddedNat_two is_tens is_ones
    have upper : [r, tens, ones].map Char.toUpper = continuationExtension n := by
      rw [continuationExtension, digits, List.map_cons, List.map_cons, List.map_cons,
        toUpper_digit is_tens, toUpper_digit is_ones]
      obtain rfl | rfl := letter <;> rfl
    rw [upper]
    exact .continuation n small

theorem Listed.capitals {extension : List Char} (listed : Listed extension) :
    extension.map Char.toUpper = extension := by
  cases listed with
  | first => rfl
  | continuation n small =>
    obtain ⟨tens, ones, is_tens, is_ones, continuation_eq⟩ := exists_continuation_eq small
    rw [continuation_eq, List.map_cons, List.map_cons, List.map_cons, toUpper_digit is_tens,
      toUpper_digit is_ones]
    rfl

theorem Listed.any_isUpper {extension : List Char} (listed : Listed extension) :
    extension.any Char.isUpper = true := by
  cases listed <;> rfl

theorem Listed.chunkExtension {extension : List Char} (listed : Listed extension) :
    ChunkExtension extension := by
  cases listed with
  | first => exact .inl rfl
  | continuation n small =>
    obtain ⟨tens, ones, is_tens, is_ones, continuation_eq⟩ := exists_continuation_eq small
    exact .inr ⟨'R', tens, ones, continuation_eq, .inl rfl, is_tens, is_ones⟩

theorem ChunkExtension.toLower {extension : List Char} (chunk : ChunkExtension extension) :
    ChunkExtension (extension.map Char.toLower) := by
  obtain raw | ⟨r, tens, ones, rfl, letter, is_tens, is_ones⟩ := chunk
  · rw [raw]
    exact .inl rfl
  · refine .inr ⟨'r', tens, ones, ?_, .inr rfl, is_tens, is_ones⟩
    rw [List.map_cons, List.map_cons, List.map_cons, toLower_digit is_tens, toLower_digit is_ones]
    obtain rfl | rfl := letter <;> rfl

theorem ChunkExtension.isAlphanum {extension : List Char} (chunk : ChunkExtension extension) :
    ∀ c ∈ extension, c.isAlphanum = true := by
  intro c among
  obtain raw | ⟨r, tens, ones, rfl, letter, is_tens, is_ones⟩ := chunk
  · have letters : ∀ d ∈ ['r', 'a', 'w'], d.isAlpha = true := by
      intro d letter
      fin_cases letter <;> rfl
    have alpha := letters c.toLower (raw ▸ List.mem_map_of_mem among)
    rw [Char.isAlpha_toLower_eq_isAlpha] at alpha
    rw [Char.isAlphanum, alpha, Bool.true_or]
  · simp only [List.mem_cons, List.not_mem_nil, or_false] at among
    obtain rfl | rfl | rfl := among
    · obtain rfl | rfl := letter <;> rfl
    · rw [Char.isAlphanum, is_tens, Bool.or_true]
    · rw [Char.isAlphanum, is_ones, Bool.or_true]

theorem ChunkExtension.not_mem {extension : List Char} (chunk : ChunkExtension extension)
    {c : Char} (other : c.isAlphanum = false) : c ∉ extension := by
  intro among
  rw [chunk.isAlphanum c among] at other
  cases other

theorem ChunkExtension.ne_nil {extension : List Char} (chunk : ChunkExtension extension) :
    extension ≠ [] := by
  rintro rfl
  obtain raw | ⟨r, tens, ones, three, _⟩ := chunk
  · cases raw
  · cases three

section
variable {input : Path} {extension : List Char}

theorem spelled_chunkExtension (listed : Listed extension) :
    ChunkExtension (spelled input extension) := by
  unfold spelled
  split
  · exact listed.chunkExtension
  · exact listed.chunkExtension.toLower

theorem any_isUpper_spelled (listed : Listed extension) :
    (spelled input extension).any Char.isUpper =
      (input.extension?.getD []).any Char.isUpper := by
  unfold spelled
  split
  · next capital => rw [listed.any_isUpper, capital]
  · next small =>
    rw [Bool.not_eq_true] at small
    rw [small, List.any_map, List.any_eq_false]
    intro c _
    simp

/-- Whatever the spelling, the extension can be told. -/
theorem toUpper_spelled (listed : Listed extension) :
    (spelled input extension).map Char.toUpper = extension := by
  unfold spelled
  split
  · exact listed.capitals
  · rw [toUpper_toLower, listed.capitals]

theorem member_injective {other : List Char} (listed : Listed extension) (listed' : Listed other)
    (same : member input extension = member input other) : extension = other := by
  have chars := congrArg Path.chars same
  have behind := List.append_cancel_left chars
  rw [List.cons.injEq] at behind
  rw [← @toUpper_spelled input _ listed, behind.2, toUpper_spelled listed']

theorem respell_eq (input : Path) (extension : List Char) :
    respell input extension = input.withExtension (spelled input extension) := by
  unfold respell spelled
  split <;> rfl

variable {stem old blank : List Char}

theorem recordingName_eq (extended : input.Extended input.beforeLast stem old blank) :
    recordingName input = input.beforeLast ++ stem := by
  rw [recordingName, extended.stem?_eq, Option.getD_some]

theorem respell_eq_member (extended : input.Extended input.beforeLast stem old blank)
    (kept : ¬input.Collapses) (extension : List Char) :
    respell input extension = member input extension := by
  rw [respell_eq, extended.withExtension_eq kept, member, recordingName_eq extended]

theorem member_extended (extended : input.Extended input.beforeLast stem old blank)
    (listed : Listed extension) :
    (member input extension).Extended input.beforeLast stem (spelled input extension) [] := by
  have chunk : ChunkExtension (spelled input extension) := spelled_chunkExtension listed
  have plain : '/' ∉ stem := fun among =>
    extended.plain (List.mem_append_left _ among)
  rw [member, recordingName_eq extended]
  exact .of_name extended.in_front plain (chunk.not_mem rfl) (chunk.not_mem rfl)
    extended.some_stem chunk.ne_nil

/-- A member names the same recording, in the same spelling. -/
theorem member_member (extended : input.Extended input.beforeLast stem old blank)
    (listed : Listed extension) : member (member input extension) = member input := by
  have again := member_extended extended listed
  have same_name : recordingName (member input extension) = recordingName input := by
    rw [recordingName, again.beforeLast_eq, again.stem?_eq, recordingName_eq extended]
    rfl
  have same_spelling : spelled (member input extension) = spelled input := by
    funext other
    rw [spelled, again.extension?_eq, Option.getD_some, any_isUpper_spelled listed, spelled]
  funext other
  rw [member, same_name, same_spelling, member]

/-- A member collapses just if its name leaves a dot without the extension. -/
theorem member_collapses_iff (extended : input.Extended input.beforeLast stem old blank)
    (listed : Listed extension) : (member input extension).Collapses ↔ stem = ['.'] := by
  rw [(member_extended extended listed).collapses_iff]
  exact and_iff_left rfl

theorem namesChunk_member (extended : input.Extended input.beforeLast stem old blank)
    (listed : Listed extension) : NamesChunk (member input extension) :=
  ⟨_, (member_extended extended listed).extension?_eq, spelled_chunkExtension listed⟩

end

/-- The first so many items pass, and the next one does not. -/
theorem exists_takeWhile_range {α : Type} (passes : α → Bool) (item : Nat → α) (most : Nat) :
    ∃ count ≤ most,
      ((List.range most).map item).takeWhile passes = (List.range count).map item ∧
      (count = most ∨ passes (item count) = false) := by
  induction most with
  | zero => exact ⟨0, le_rfl, rfl, .inl rfl⟩
  | succ most ih =>
    obtain ⟨count, le, taken, gap⟩ := ih
    rw [List.range_succ, List.map_append, List.takeWhile_append, taken]
    by_cases all : count = most
    · subst all
      rw [if_pos rfl]
      cases passing : passes (item count) with
      | true =>
        refine ⟨count + 1, le_rfl, ?_, .inl rfl⟩
        simp [passing, List.range_succ]
      | false =>
        refine ⟨count, Nat.le_succ count, ?_, .inr passing⟩
        simp [passing]
    · have fewer : ¬((List.range count).map item).length = ((List.range most).map item).length := by
        simpa using all
      rw [if_neg fewer]
      exact ⟨count, by omega, rfl, .inr (gap.resolve_left all)⟩

/-- What is found under the spelling of the input, if the first chunk is there. -/
def listing (tree : FileTree) (input : Path) : List Path :=
  member input firstExtension ::
    ((List.range maxContinuations).map fun n => member input (continuationExtension n)).takeWhile
      tree.isFile

theorem paths_eq_ok_iff {tree : FileTree} {input : Path} {found : List Path}
    (kept : ¬input.Collapses) :
    paths tree input = .ok found ↔
      NamesChunk input ∧ tree.isFile (member input firstExtension) = true ∧
        found = listing tree input := by
  unfold paths
  by_cases named : NamesChunk input
  · obtain ⟨extension, extension_eq, chunk⟩ := named
    obtain ⟨stem, blank, extended⟩ := Path.exists_extended extension_eq
    have respell_input : respell input = member input :=
      funext (respell_eq_member extended kept)
    rw [if_pos ((isExtension_input_iff input).mpr ⟨extension, extension_eq, chunk⟩)]
    dsimp only
    rw [continuations, respell_input]
    split
    · next first => simp [first, listing, NamesChunk, extension_eq, chunk, eq_comm]
    · next no_first => simp [no_first]
  · rw [if_neg (by rwa [isExtension_input_iff])]
    simp [named]

/-- A continuation is among the members just if its number is below their count. -/
theorem continuation_mem_members {input : Path} {n count : Nat} (small : n < maxContinuations)
    (at_most : count ≤ maxContinuations) :
    member input (continuationExtension n) ∈ members input count ↔ n < count := by
  rw [members, List.mem_cons, List.mem_map]
  constructor
  · rintro (first | ⟨k, among, same⟩)
    · exact absurd (member_injective .first (.continuation n small) first.symm)
        (firstExtension_ne n)
    · rw [List.mem_range] at among
      have listed := Listed.continuation k (among.trans_le at_most)
      rwa [← continuationExtension_injective
        (member_injective listed (.continuation n small) same)]
  · intro below
    exact .inr ⟨n, List.mem_range.mpr below, rfl⟩

theorem nodup_members (input : Path) {count : Nat} (at_most : count ≤ maxContinuations) :
    (members input count).Nodup := by
  have listed : ∀ n ∈ List.range count, Listed (continuationExtension n) := fun n among =>
    .continuation n ((List.mem_range.mp among).trans_le at_most)
  rw [members, List.nodup_cons, List.mem_map]
  constructor
  · rintro ⟨n, among, same⟩
    exact firstExtension_ne n (member_injective (listed n among) .first same).symm
  · refine List.nodup_range.map_on fun m among n among' same => ?_
    exact continuationExtension_injective
      (member_injective (listed m among) (listed n among') same)

theorem listing_collected {tree : FileTree} {input : Path}
    (first : tree.isFile (member input firstExtension) = true) :
    ∃ count, Collected tree input (listing tree input) count := by
  obtain ⟨count, at_most, taken, gap⟩ := exists_takeWhile_range tree.isFile
    (fun n => member input (continuationExtension n)) maxContinuations
  have found_eq : listing tree input = members input count := by rw [listing, taken, members]
  refine ⟨count, found_eq, at_most, ?_, gap, ?_⟩
  · intro p among
    obtain rfl | later := List.mem_cons.mp among
    · exact first
    · exact List.mem_takeWhile_imp later
  · rw [found_eq]
    exact nodup_members input at_most

/-- Every path of a listing is that of a listed extension. -/
theorem exists_listed_of_mem {tree : FileTree} {input p : Path} (among : p ∈ listing tree input) :
    ∃ extension, Listed extension ∧ p = member input extension := by
  obtain rfl | later := List.mem_cons.mp among
  · exact ⟨_, .first, rfl⟩
  · obtain ⟨n, in_range, rfl⟩ := List.mem_map.mp ((List.takeWhile_prefix _).subset later)
    exact ⟨_, .continuation n (List.mem_range.mp in_range), rfl⟩

theorem paths_of_unnamed {tree : FileTree} {input : Path} (unnamed : ¬NamesChunk input) :
    paths tree input = .error (notAChunk input) :=
  if_neg (by rwa [isExtension_input_iff])

/-- The text of a name that collapses is cut down to its two dots, which are no
file. -/
theorem paths_of_collapses {tree : FileTree} (rooted : tree.Rooted) {input : Path}
    (named : NamesChunk input) (collapses : input.Collapses) :
    paths tree input = .error (firstMissing ⟨input.beforeLast ++ ['.', '.']⟩) := by
  obtain ⟨extension, extension_eq, chunk⟩ := named
  obtain ⟨stem, blank, extended⟩ := Path.exists_extended extension_eq
  have up : Path.Spelled ⟨input.beforeLast ++ ['.', '.']⟩ input.beforeLast ['.', '.'] [] :=
    ⟨(List.append_nil _).symm, extended.in_front, by decide, by decide, by decide, .nil⟩
  have no_file : ¬tree.isFile ⟨input.beforeLast ++ ['.', '.']⟩ = true := fun is_file =>
    (rooted.nothing_behind up is_file).2 rfl
  unfold paths
  rw [if_pos ((isExtension_input_iff input).mpr ⟨extension, extension_eq, chunk⟩)]
  dsimp only
  rw [respell_eq, extended.withExtension_of_collapses collapses, if_neg no_file]

/-- **A chunk whose name collapses finds nothing**, not even itself. -/
theorem fails_of_collapses {tree : FileTree} (rooted : tree.Rooted) {input : Path}
    (collapses : input.Collapses) : ∃ failure, paths tree input = .error failure := by
  by_cases named : NamesChunk input
  · exact ⟨_, paths_of_collapses rooted named collapses⟩
  · exact ⟨_, paths_of_unnamed named⟩

/-- **Discovery is canonical**, unless the name of the input collapses. The chunks
found are all there are in front of the first gap, and each of them leads back to
the same chunks, unless the names themselves collapse. -/
theorem paths_canonical (tree : FileTree) (input : Path) :
    (input.Collapses → tree.Rooted → ∃ failure, paths tree input = .error failure) ∧
    (¬input.Collapses →
      ((∃ failure, paths tree input = .error failure) ↔
        ¬NamesChunk input ∨ tree.isFile (member input firstExtension) = false) ∧
      ∀ found, paths tree input = .ok found →
        (∃ count, Collected tree input found count) ∧
        (input.stem? ≠ some ['.'] → ∀ p ∈ found, paths tree p = .ok found) ∧
        (input.stem? = some ['.'] → ∀ p ∈ found, p.Collapses)) := by
  refine ⟨fun collapses rooted => fails_of_collapses rooted collapses, fun kept => ⟨?_, ?_⟩⟩
  · constructor
    · rintro ⟨failure, failed⟩
      by_contra neither
      rw [not_or, not_not, Bool.not_eq_false] at neither
      have found := (paths_eq_ok_iff kept).mpr ⟨neither.1, neither.2, rfl⟩
      cases failed.symm.trans found
    · intro lacking
      cases outcome : paths tree input with
      | error failure => exact ⟨failure, rfl⟩
      | ok found =>
        obtain ⟨named, first, _⟩ := (paths_eq_ok_iff kept).mp outcome
        obtain unnamed | missing := lacking
        · exact absurd named unnamed
        · cases first.symm.trans missing
  · intro found ok
    obtain ⟨⟨extension, extension_eq, chunk⟩, first, rfl⟩ := (paths_eq_ok_iff kept).mp ok
    obtain ⟨stem, blank, extended⟩ := Path.exists_extended extension_eq
    rw [extended.stem?_eq]
    refine ⟨listing_collected first, ?_, ?_⟩
    · intro not_dot p among
      obtain ⟨other, listed, rfl⟩ := exists_listed_of_mem among
      -- The member names the same recording in the same spelling, so that both
      -- listings are one.
      have same := member_member extended listed
      have kept' : ¬(member input other).Collapses := fun collapses =>
        not_dot (congrArg some ((member_collapses_iff extended listed).mp collapses))
      rw [paths_eq_ok_iff kept', listing, listing, same]
      exact ⟨namesChunk_member extended listed, first, rfl⟩
    · intro dot p among
      obtain ⟨other, listed, rfl⟩ := exists_listed_of_mem among
      exact (member_collapses_iff extended listed).mpr (Option.some.inj dot)

/-- A recording with dots in its name, with a directory in place of its third
chunk and a file behind it, next to a chunk that has no name but a dot. -/
def dotted : FileTree :=
  ⟨[([['w']], .directory), ([['w'], ['v', '.', '2', '.', 'r', 'a', 'w']], .file [0]),
    ([['w'], ['v', '.', '2', '.', 'r', '0', '0']], .file [1]),
    ([['w'], ['v', '.', '2', '.', 'r', '0', '1']], .directory),
    ([['w'], ['v', '.', '2', '.', 'r', '0', '2']], .file [2]),
    ([['w'], ['.', '.', 'R', 'A', 'W']], .file [3])], [['w']]⟩

theorem dotted_rooted : dotted.Rooted := .of_nodes (by decide) (by decide)

/-- The recording is asked for by a chunk that is not there, with a slash behind
it. The chunk that has no name is found with a slash behind it, and only then. -/
theorem paths_canonical_dotted :
    let found : List Path :=
      [⟨['v', '.', '2', '.', 'r', 'a', 'w']⟩, ⟨['v', '.', '2', '.', 'r', '0', '0']⟩]
    let dots : Path := ⟨['.', '.', 'R', 'A', 'W']⟩
    paths dotted ⟨['v', '.', '2', '.', 'r', '1', '7', '/']⟩ = .ok found ∧
      (∀ p ∈ found, paths dotted p = .ok found) ∧
      paths dotted ⟨dots.chars ++ ['/']⟩ = .ok [dots] ∧
      ∃ failure, paths dotted dots = .error failure := by
  intro found dots
  have ok : paths dotted ⟨['v', '.', '2', '.', 'r', '1', '7', '/']⟩ = .ok found := by cbv
  have ok' : paths dotted ⟨dots.chars ++ ['/']⟩ = .ok [dots] := by cbv
  obtain ⟨_, closed, _⟩ := ((paths_canonical dotted
    ⟨['v', '.', '2', '.', 'r', '1', '7', '/']⟩).2 (by decide)).2 found ok
  obtain ⟨_, _, open_ended⟩ :=
    ((paths_canonical dotted ⟨dots.chars ++ ['/']⟩).2 (by decide)).2 [dots] ok'
  have collapses : dots.Collapses := open_ended (by decide) dots List.mem_cons_self
  exact ⟨ok, closed (by decide), ok', (paths_canonical dotted dots).1 collapses dotted_rooted⟩

/-- The chunk is there, and is the first of its recording, but is not found. -/
theorem dots_lead_nowhere :
    let input : Path := ⟨['.', '.', 'R', 'A', 'W']⟩
    dotted.Rooted ∧ NamesChunk input ∧ member input firstExtension = input ∧
      dotted.isFile input = true ∧ paths dotted input = .error (firstMissing ⟨['.', '.']⟩) := by
  refine ⟨dotted_rooted, ⟨['R', 'A', 'W'], by decide, .inl (by decide)⟩, ?_, ?_, ?_⟩ <;> cbv

section
variable {input : Path} {stem extension : List Char}

/-- An extension in one letter case is the spelling of its capitals. -/
theorem spelled_toUpper (extended : input.extension? = some extension)
    (one_case : extension.map Char.toUpper = extension ∨ extension.map Char.toLower = extension) :
    spelled input (extension.map Char.toUpper) = extension := by
  rw [spelled, extended, Option.getD_some]
  split
  · next capital =>
    obtain capitals | small := one_case
    · exact capitals
    · rw [← small, List.any_map, List.any_eq_true] at capital
      obtain ⟨c, _, upper⟩ := capital
      simp at upper
  · next small =>
    rw [toLower_toUpper]
    refine (List.map_congr_left fun c among => ?_).trans (List.map_id _)
    exact Char.toLower_eq_of_not_isUpper fun upper =>
      small (List.any_eq_true.mpr ⟨c, among, upper⟩)

/-- A path with nothing behind its name is a member of its own recording. -/
theorem eq_member (extended : input.Extended input.beforeLast stem extension [])
    (one_case : extension.map Char.toUpper = extension ∨ extension.map Char.toLower = extension) :
    input = member input (extension.map Char.toUpper) := by
  rw [member, spelled_toUpper extended.extension?_eq one_case, recordingName_eq extended,
    List.append_assoc, ← List.append_nil (input.beforeLast ++ _), ← extended.chars_eq]

end

/-- **The named chunk is among those found just if none in front of it is
missing**, as long as its extension is in one letter case. -/
theorem named_chunk_found_iff {tree : FileTree} (rooted : tree.Rooted) {input : Path}
    {extension : List Char} (extended : input.extension? = some extension)
    (one_case : extension.map Char.toUpper = extension ∨ extension.map Char.toLower = extension)
    (is_file : tree.isFile input = true) {found : List Path}
    (ok : paths tree input = .ok found) :
    input ∈ found ↔
      ∀ n, extension.map Char.toUpper = continuationExtension n →
        ∀ earlier < n, tree.isFile (member input (continuationExtension earlier)) = true := by
  have kept : ¬input.Collapses := by
    intro collapses
    obtain ⟨failure, failed⟩ := fails_of_collapses rooted collapses
    cases failed.symm.trans ok
  obtain ⟨⟨_, extension_eq, chunk⟩, first, rfl⟩ := (paths_eq_ok_iff kept).mp ok
  cases extended.symm.trans extension_eq
  obtain ⟨count, collected⟩ := listing_collected first
  obtain ⟨stem, blank, spelled_out⟩ := Path.exists_extended extended
  obtain ⟨rfl, _⟩ := rooted.nothing_behind spelled_out.toSpelled is_file
  have input_eq := eq_member spelled_out one_case
  have mem_iff : input ∈ listing tree input ↔
      member input (extension.map Char.toUpper) ∈ listing tree input := by rw [← input_eq]
  have member_file : tree.isFile (member input (extension.map Char.toUpper)) = true := by
    rwa [← input_eq]
  rw [mem_iff]
  have listed := chunk.listed
  generalize extension.map Char.toUpper = capitals at listed member_file
  cases listed with
  | first =>
    constructor
    · intro _ n same
      exact absurd same (firstExtension_ne n)
    · intro _
      exact List.mem_cons_self
  | continuation n small =>
    rw [collected.found_eq, continuation_mem_members small collected.at_most]
    constructor
    · intro below k same earlier before
      cases continuationExtension_injective same
      apply collected.files
      rw [collected.found_eq, continuation_mem_members (before.trans small) collected.at_most]
      exact before.trans below
    · intro no_gap
      by_contra not_below
      -- The count is the number of the first chunk that is missing.
      have missing := collected.gap.resolve_left (by omega)
      obtain before | rfl := (Nat.le_of_not_lt not_below).lt_or_eq
      · cases (no_gap n rfl count before).symm.trans missing
      · cases member_file.symm.trans missing

/-- Two chunks, a gap, and one more chunk. -/
def gapped : FileTree :=
  ⟨[([['w']], .directory), ([['w'], ['A', '.', 'R', 'A', 'W']], .file [0]),
    ([['w'], ['A', '.', 'R', '0', '0']], .file [1]),
    ([['w'], ['A', '.', 'R', '0', '2']], .file [2])], [['w']]⟩

theorem gapped_rooted : gapped.Rooted := .of_nodes (by decide) (by decide)

theorem named_chunk_found_iff_gapped :
    let found : List Path := [⟨['A', '.', 'R', 'A', 'W']⟩, ⟨['A', '.', 'R', '0', '0']⟩]
    paths gapped ⟨['A', '.', 'R', '0', '0']⟩ = .ok found ∧
      ⟨['A', '.', 'R', '0', '0']⟩ ∈ found ∧
      paths gapped ⟨['A', '.', 'R', '0', '2']⟩ = .ok found ∧
      ⟨['A', '.', 'R', '0', '2']⟩ ∉ found := by
  intro found
  have ok : paths gapped ⟨['A', '.', 'R', '0', '0']⟩ = .ok found := by cbv
  have ok' : paths gapped ⟨['A', '.', 'R', '0', '2']⟩ = .ok found := by cbv
  have found_iff := @named_chunk_found_iff _ gapped_rooted _ ['R', '0', '0'] (by decide)
    (.inl (by decide)) (by decide) _ ok
  have found_iff' := @named_chunk_found_iff _ gapped_rooted _ ['R', '0', '2'] (by decide)
    (.inl (by decide)) (by decide) _ ok'
  refine ⟨ok, found_iff.mpr ?_, ok', fun among => ?_⟩
  · intro n same earlier before
    have upper : ['R', '0', '0'].map Char.toUpper = continuationExtension 0 := by decide
    rw [continuationExtension_injective (same.symm.trans upper)] at before
    exact absurd before (Nat.not_lt_zero earlier)
  · have there := found_iff'.mp among 2 (by decide) 1 (by decide)
    cases there

/-- The chunk that is named stands behind a gap: a shorter recording is found. -/
theorem named_chunk_behind_gap :
    let input : Path := ⟨['A', '.', 'R', '0', '2']⟩
    let found : List Path := [⟨['A', '.', 'R', 'A', 'W']⟩, ⟨['A', '.', 'R', '0', '0']⟩]
    gapped.Rooted ∧ NamesChunk input ∧ gapped.isFile input = true ∧
      paths gapped input = .ok found ∧ input ∉ found := by
  refine ⟨gapped_rooted, ⟨['R', '0', '2'], by decide, .inr ?_⟩, ?_, ?_, by decide⟩
  · exact ⟨'R', '0', '2', rfl, .inl rfl, rfl, rfl⟩
  · cbv
  · cbv

end RawReel.Chunk
