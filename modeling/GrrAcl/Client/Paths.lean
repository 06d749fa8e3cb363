import GrrAcl.Aff4.Urn

/-! `CanonicalPathToLocalPath` of the Windows client: a drive's path becomes its local path, and the result holds no slash and converts to itself. -/

namespace GrrAcl

/-- `path.replace("/\\", "\\")`: read left to right, a slash in front of a backslash is dropped. -/
def replaceSlashBackslash : List Char → List Char
  | '/' :: '\\' :: rest => '\\' :: replaceSlashBackslash rest
  | char :: rest => char :: replaceSlashBackslash rest
  | [] => []

/-- `path.replace("/", "\\")`: every slash becomes a backslash. -/
def replaceSlash (path : List Char) : List Char :=
  path.map fun char => if char = '/' then '\\' else char

/--
`re.match(r"\\([a-zA-Z]):(.*)$", path)` and its two groups: a backslash, a drive letter and a colon, then
the rest. The rest holds no newline, since `.` stops at one; `$` also matches in front of a newline that
ends the string, which the second group then leaves out.
-/
def matchDrive : List Char → Option (Char × List Char)
  | '\\' :: letter :: ':' :: rest =>
    if letter.isAlpha then
      if '\n' ∉ rest then some (letter, rest)
      else if rest.getLast? = some '\n' ∧ '\n' ∉ rest.dropLast then some (letter, rest.dropLast)
      else none
    else none
  | _ => none

/-- `CanonicalPathToLocalPath(path)`: slashes become backslashes, and `\X:` becomes `X:\`. -/
def canonicalPathToLocalPath (path : String) : String :=
  let path := replaceSlash (replaceSlashBackslash path.toList)
  match matchDrive path with
  | some (letter, rest) => String.mk (letter :: ':' :: '\\' :: rest.dropWhile (· == '\\'))
  | none => String.mk path

/-- No slash is left once slashes are replaced. -/
theorem slash_not_mem_replaceSlash (path : List Char) : '/' ∉ replaceSlash path := by
  simp only [replaceSlash, List.mem_map, not_exists, not_and]
  intro char _
  split_ifs with slash
  · decide
  · exact slash

/-- Dropping slashes in front of backslashes keeps the other characters in order. -/
theorem replaceSlashBackslash_sublist (path : List Char) : (replaceSlashBackslash path).Sublist path := by
  induction path using replaceSlashBackslash.induct with
  | case1 rest kept => exact (kept.cons₂ _).cons _
  | case2 char rest other kept =>
    rw [replaceSlashBackslash.eq_2 char rest other]
    exact kept.cons₂ _
  | case3 => exact .slnil

/-- Without a slash, or without a backslash, dropping slashes in front of backslashes changes nothing. -/
theorem replaceSlashBackslash_of_free (path : List Char) (free : '/' ∉ path ∨ '\\' ∉ path) :
    replaceSlashBackslash path = path := by
  induction path using replaceSlashBackslash.induct with
  | case1 rest _ => rcases free with free | free <;> simp at free
  | case2 char rest other kept =>
    rw [replaceSlashBackslash.eq_2 char rest other,
      kept (free.imp (fun free member => free (.tail _ member)) fun free member => free (.tail _ member))]
  | case3 => rfl

/-- Without a slash, replacing slashes changes nothing. -/
theorem replaceSlash_of_slash_not_mem {path : List Char} (noSlash : '/' ∉ path) : replaceSlash path = path := by
  conv_rhs => rw [← List.map_id path]
  exact List.map_congr_left fun char member => if_neg fun (same : char = '/') => noSlash (same ▸ member)

/-- Replacing slashes works on the two halves of a path apart. -/
theorem replaceSlash_append (first second : List Char) :
    replaceSlash (first ++ second) = replaceSlash first ++ replaceSlash second := List.map_append _ _ _

/-- Replacing slashes in parts joined by slashes, none holding one, joins them by backslashes. -/
theorem replaceSlash_intercalate : ∀ (parts : List (List Char)), (∀ part ∈ parts, '/' ∉ part) →
    replaceSlash (['/'].intercalate parts) = ['\\'].intercalate parts
  | [], _ => rfl
  | [part], noSlash => by
    simpa [List.intercalate] using replaceSlash_of_slash_not_mem (noSlash part (List.mem_singleton_self _))
  | part :: next :: rest, noSlash => by
    have tail := replaceSlash_intercalate (next :: rest) fun other member => noSlash other (.tail _ member)
    simp only [List.intercalate, List.intersperse_cons₂, List.flatten_cons] at tail ⊢
    rw [replaceSlash_append, replaceSlash_append, tail, replaceSlash_of_slash_not_mem (noSlash part (.head _))]
    rfl

/-- A character of parts joined by a separator is the separator's or a part's. -/
theorem mem_intercalate {separator : List Char} {char : Char} : ∀ {parts : List (List Char)},
    char ∈ separator.intercalate parts → char ∈ separator ∨ ∃ part ∈ parts, char ∈ part
  | [], member => by cases member
  | [part], member => .inr ⟨part, List.mem_singleton_self _, by simpa [List.intercalate] using member⟩
  | part :: next :: rest, member => by
    rw [List.intercalate, List.intersperse_cons₂, List.flatten_cons, List.flatten_cons] at member
    rcases List.mem_append.mp member with inPart | later
    · exact .inr ⟨part, .head _, inPart⟩
    rcases List.mem_append.mp later with inSeparator | later
    · exact .inl inSeparator
    · exact (mem_intercalate later).imp id fun ⟨other, member, inOther⟩ => ⟨other, .tail _ member, inOther⟩

/-- Parts joined by a separator begin with the first part. -/
theorem intercalate_cons (separator part : List Char) (rest : List (List Char)) :
    ∃ tail, separator.intercalate (part :: rest) = part ++ tail := by
  cases rest with
  | nil => exact ⟨[], by simp [List.intercalate]⟩
  | cons next rest => exact ⟨separator ++ separator.intercalate (next :: rest), by
      rw [List.intercalate, List.intersperse_cons₂, List.flatten_cons, List.flatten_cons]; rfl⟩

/-- What the drive pattern matches: a letter, and a rest taken from the path. -/
theorem matchDrive_sublist {path rest : List Char} {letter : Char} (matched : matchDrive path = some (letter, rest)) :
    letter.isAlpha ∧ rest.Sublist path := by
  unfold matchDrive at matched
  split at matched
  · rename_i drive tail
    -- The rest is what follows the colon, or that without its last character.
    have below : tail.Sublist ('\\' :: drive :: ':' :: tail) := .cons _ (.cons _ (.cons _ (.refl _)))
    split_ifs at matched with alpha <;> cases matched <;>
      first | exact ⟨alpha, below⟩ | exact ⟨alpha, (List.dropLast_prefix _).sublist.trans below⟩
  · cases matched

/-- A path that starts with a letter, not a backslash, does not match the drive pattern. -/
theorem matchDrive_of_isAlpha {letter : Char} (alpha : letter.isAlpha) (rest : List Char) :
    matchDrive (letter :: rest) = none := by
  unfold matchDrive
  split
  · rename_i same
    simp only [List.cons.injEq] at same
    rw [same.1] at alpha
    cases alpha
  · rfl

/-- When the drive pattern matches the path with its slashes replaced, the drive and the rest are rebuilt. -/
theorem canonicalPathToLocalPath_of_matchDrive {path : String} {letter : Char} {rest : List Char}
    (matched : matchDrive (replaceSlash (replaceSlashBackslash path.toList)) = some (letter, rest)) :
    (canonicalPathToLocalPath path).toList = letter :: ':' :: '\\' :: rest.dropWhile (· == '\\') := by
  unfold canonicalPathToLocalPath
  simp only [matched]
  rfl

/-- When the drive pattern does not match, the path is kept with its slashes replaced. -/
theorem canonicalPathToLocalPath_of_not_matchDrive {path : String}
    (unmatched : matchDrive (replaceSlash (replaceSlashBackslash path.toList)) = none) :
    (canonicalPathToLocalPath path).toList = replaceSlash (replaceSlashBackslash path.toList) := by
  unfold canonicalPathToLocalPath
  simp only [unmatched]
  rfl

/-- What the conversion gives, by whether the drive pattern matched the path with its slashes replaced. -/
theorem canonicalPathToLocalPath_cases (path : String) :
    (∃ letter rest, matchDrive (replaceSlash (replaceSlashBackslash path.toList)) = some (letter, rest) ∧
      (canonicalPathToLocalPath path).toList = letter :: ':' :: '\\' :: rest.dropWhile (· == '\\')) ∨
    (matchDrive (replaceSlash (replaceSlashBackslash path.toList)) = none ∧
      (canonicalPathToLocalPath path).toList = replaceSlash (replaceSlashBackslash path.toList)) := by
  cases matched : matchDrive (replaceSlash (replaceSlashBackslash path.toList)) with
  | none => exact .inr ⟨rfl, canonicalPathToLocalPath_of_not_matchDrive matched⟩
  | some found => exact .inl ⟨found.1, found.2, rfl, canonicalPathToLocalPath_of_matchDrive matched⟩

/-- The local path holds no slash: slashes were replaced, and a drive path is rebuilt from the rest. -/
theorem slash_not_mem_canonicalPathToLocalPath (path : String) :
    '/' ∉ (canonicalPathToLocalPath path).toList := by
  rcases canonicalPathToLocalPath_cases path with ⟨letter, rest, matched, converted⟩ | ⟨-, converted⟩
  · -- The letter is no slash, and the rest comes from the path with its slashes replaced.
    obtain ⟨alpha, inside⟩ := matchDrive_sublist matched
    have restFree : '/' ∉ rest.dropWhile (· == '\\') := fun member =>
      slash_not_mem_replaceSlash _ (((List.dropWhile_suffix _).sublist.trans inside).subset member)
    have letterNot : '/' ≠ letter := fun same => by rw [← same] at alpha; cases alpha
    rw [converted]
    simpa [letterNot] using restFree
  · rw [converted]
    exact slash_not_mem_replaceSlash _

/--
Converting a path to a local one is idempotent: the local path holds no slash, so the replacements leave
it alone, and it starts with its drive letter or is a path the drive pattern did not match.
-/
theorem canonicalPathToLocalPath_idempotent (path : String) :
    '/' ∉ (canonicalPathToLocalPath path).toList ∧
      canonicalPathToLocalPath (canonicalPathToLocalPath path) = canonicalPathToLocalPath path := by
  have noSlash := slash_not_mem_canonicalPathToLocalPath path
  have unmatched : matchDrive (canonicalPathToLocalPath path).toList = none := by
    rcases canonicalPathToLocalPath_cases path with ⟨letter, rest, matched, converted⟩ | ⟨matched, converted⟩
    · rw [converted]
      exact matchDrive_of_isAlpha (matchDrive_sublist matched).1 _
    · rw [converted, matched]
  refine ⟨noSlash, ?_⟩
  generalize canonicalPathToLocalPath path = converted at noSlash unmatched
  -- The replacements change nothing, and then neither does the unmatched drive pattern.
  have cleaned : replaceSlash (replaceSlashBackslash converted.toList) = converted.toList := by
    rw [replaceSlashBackslash_of_free _ (.inl noSlash), replaceSlash_of_slash_not_mem noSlash]
  exact String.ext ((canonicalPathToLocalPath_of_not_matchDrive (by rw [cleaned, unmatched])).trans cleaned)

/-- Replacing slashes adds no newline, nor does dropping slashes. -/
theorem newline_not_mem_replaceSlash {rest : List Char} (noNewline : '\n' ∉ rest) :
    '\n' ∉ replaceSlash (replaceSlashBackslash rest) := by
  simp only [replaceSlash, List.mem_map, not_exists, not_and]
  intro char member
  split_ifs with slash
  · decide
  · exact fun same => noNewline ((replaceSlashBackslash_sublist rest).subset (same ▸ member))

/-- Past the leading slash of a drive's path, only the rest's slashes are replaced. -/
theorem replaceSlash_drive {letter : Char} (alpha : letter.isAlpha = true) (rest : List Char) :
    replaceSlash (replaceSlashBackslash ('/' :: letter :: ':' :: rest)) =
      '\\' :: letter :: ':' :: replaceSlash (replaceSlashBackslash rest) := by
  have notBackslash : letter ≠ '\\' := fun same => by rw [same] at alpha; cases alpha
  have notSlash : letter ≠ '/' := fun same => by rw [same] at alpha; cases alpha
  simp [replaceSlashBackslash, replaceSlash, notBackslash, notSlash]

/--
A path of a drive, `/X:` and then a rest without a newline, becomes `X:\` and then the rest with its
slashes replaced and its leading backslashes stripped.
-/
theorem canonicalPathToLocalPath_toList_of_drive {path : String} {letter : Char} (alpha : letter.isAlpha = true)
    {rest : List Char}
    (layout : path.toList = '/' :: letter :: ':' :: rest) (noNewline : '\n' ∉ rest) :
    (canonicalPathToLocalPath path).toList =
      letter :: ':' :: '\\' :: (replaceSlash (replaceSlashBackslash rest)).dropWhile (· == '\\') := by
  -- Only the leading slash is replaced in front of the rest, which leaves the drive pattern to match.
  apply canonicalPathToLocalPath_of_matchDrive
  rw [layout, replaceSlash_drive alpha]
  simp [matchDrive, alpha, newline_not_mem_replaceSlash noNewline]

/--
A canonical path of a drive, `/X:/` and then components joined by slashes, none holding a slash, a
backslash or a newline and the first not empty, becomes the drive's local path `X:\` and then the
components joined by backslashes.
-/
theorem canonicalPathToLocalPath_drive {letter : Char} (alpha : letter.isAlpha = true) (components : List String)
    (plain : ∀ component ∈ components, '/' ∉ component.toList ∧ '\\' ∉ component.toList ∧ '\n' ∉ component.toList)
    (firstNonempty : components.head? ≠ some "") :
    canonicalPathToLocalPath ("/" ++ String.singleton letter ++ ":/" ++ "/".intercalate components) =
      String.singleton letter ++ ":\\" ++ "\\".intercalate components := by
  have layout : ("/" ++ String.singleton letter ++ ":/" ++ "/".intercalate components).toList =
      '/' :: letter :: ':' :: '/' :: ['/'].intercalate (components.map String.toList) := by
    simp only [String.toList, String.data_append, intercalate_data]
    rfl
  -- The joined components hold neither a backslash nor a newline: their slashes are the separators.
  have parts : ∀ part ∈ components.map String.toList, '/' ∉ part ∧ '\\' ∉ part ∧ '\n' ∉ part := by
    simpa using plain
  have free : ∀ char ∈ '/' :: ['/'].intercalate (components.map String.toList), char ≠ '\\' ∧ char ≠ '\n' :=
    fun char member => by
      rcases List.mem_cons.mp member with rfl | joined
      · decide
      rcases mem_intercalate joined with separator | ⟨part, listed, inPart⟩
      · rw [List.mem_singleton.mp separator]
        decide
      · obtain ⟨-, noBackslash, noNewline⟩ := parts part listed
        exact ⟨fun same => noBackslash (same ▸ inPart), fun same => noNewline (same ▸ inPart)⟩
  have converted := canonicalPathToLocalPath_toList_of_drive alpha layout fun member => (free _ member).2 rfl
  -- Past the drive, the slashes become backslashes, and the first component stops the stripping.
  have unslashed : replaceSlash (replaceSlashBackslash ('/' :: ['/'].intercalate (components.map String.toList))) =
      '\\' :: ['\\'].intercalate (components.map String.toList) := by
    rw [replaceSlashBackslash_of_free _ (.inr fun member => (free _ member).1 rfl)]
    exact congrArg ('\\' :: ·) (replaceSlash_intercalate _ fun part listed => (parts part listed).1)
  have stripped : ('\\' :: ['\\'].intercalate (components.map String.toList)).dropWhile (· == '\\') =
      ['\\'].intercalate (components.map String.toList) := by
    rw [List.dropWhile_cons_of_pos (by decide)]
    cases components with
    | nil => rfl
    | cons first rest =>
      obtain ⟨char, chars, firstIs⟩ : ∃ char chars, first.toList = char :: chars :=
        List.exists_cons_of_ne_nil fun empty => firstNonempty (congrArg some (String.ext empty))
      have notBackslash : char ≠ '\\' := fun same =>
        (parts first.toList (List.mem_cons_self _ _)).2.1 (by rw [firstIs, same]; exact List.mem_cons_self _ _)
      obtain ⟨tail, joined⟩ := intercalate_cons ['\\'] first.toList (rest.map String.toList)
      rw [List.map_cons, joined, firstIs, List.cons_append, List.dropWhile_cons_of_neg (by simpa using notBackslash)]
  apply String.ext
  change (canonicalPathToLocalPath _).toList = _
  rw [converted, unslashed, stripped]
  simp only [String.data_append, intercalate_data]
  rfl

/-- `/C:/Windows/System32` becomes `C:\Windows\System32`. -/
theorem canonicalPathToLocalPath_drive_windows :
    'C'.isAlpha = true ∧
      (∀ component ∈ ["Windows", "System32"],
        '/' ∉ component.toList ∧ '\\' ∉ component.toList ∧ '\n' ∉ component.toList) ∧
      ["Windows", "System32"].head? ≠ some "" ∧
      canonicalPathToLocalPath ("/" ++ String.singleton 'C' ++ ":/" ++ "/".intercalate ["Windows", "System32"]) =
        String.singleton 'C' ++ ":\\" ++ "\\".intercalate ["Windows", "System32"] :=
  ⟨rfl, by decide, by decide, @canonicalPathToLocalPath_drive 'C' rfl _ (by decide) (by decide)⟩

example : canonicalPathToLocalPath "/C:/Windows/System32" = "C:\\Windows\\System32" := by decide

/--
A newline in a drive's path: `.` in the pattern stops at one, and `$` matches in front of a last one. So
with a newline before the last character the drive pattern does not match, and the path keeps its drive
as `\X:`, only its slash replaced; a last newline is left out, and the path converts as without it.
-/
theorem canonicalPathToLocalPath_newline {letter : Char} (alpha : letter.isAlpha = true) {rest : String}
    (noSlash : '/' ∉ rest.toList) :
    ('\n' ∈ rest.toList.dropLast →
      canonicalPathToLocalPath ("/" ++ String.singleton letter ++ ":" ++ rest) =
        "\\" ++ String.singleton letter ++ ":" ++ rest) ∧
    ('\n' ∉ rest.toList →
      canonicalPathToLocalPath ("/" ++ String.singleton letter ++ ":" ++ rest ++ "\n") =
        canonicalPathToLocalPath ("/" ++ String.singleton letter ++ ":" ++ rest)) := by
  -- Past the leading slash, the replacements leave a rest without a slash alone.
  have unchanged : ∀ tail : List Char, '/' ∉ tail →
      replaceSlash (replaceSlashBackslash ('/' :: letter :: ':' :: tail)) = '\\' :: letter :: ':' :: tail :=
    fun tail noSlash => by
      rw [replaceSlash_drive alpha, replaceSlashBackslash_of_free _ (.inl noSlash), replaceSlash_of_slash_not_mem noSlash]
  have layout : ("/" ++ String.singleton letter ++ ":" ++ rest).toList = '/' :: letter :: ':' :: rest.toList := by
    simp only [String.toList, String.data_append]
    rfl
  have layoutNewline : ("/" ++ String.singleton letter ++ ":" ++ rest ++ "\n").toList =
      '/' :: letter :: ':' :: (rest.toList ++ ['\n']) := by
    simp only [String.toList, String.data_append]
    rfl
  constructor
  · -- The pattern's `.` stops at a newline before the last character, and `$` matches only before a last one.
    intro inner
    have unmatched : matchDrive ('\\' :: letter :: ':' :: rest.toList) = none := by
      simp [matchDrive, alpha, show '\n' ∈ rest.data.dropLast from inner,
        show '\n' ∈ rest.data from (List.dropLast_prefix _).subset inner]
    apply String.ext
    change (canonicalPathToLocalPath _).toList = _
    rw [canonicalPathToLocalPath_of_not_matchDrive (by rw [layout, unchanged _ noSlash, unmatched]), layout,
      unchanged _ noSlash]
    simp only [String.data_append]
    rfl
  · -- A last newline is left out of what the pattern matches.
    intro noNewline
    have noNewline' : '\n' ∉ rest.data := noNewline
    have matchedNewline : matchDrive ('\\' :: letter :: ':' :: (rest.toList ++ ['\n'])) = some (letter, rest.toList) := by
      simp [matchDrive, alpha, noNewline']
    have matched : matchDrive ('\\' :: letter :: ':' :: rest.toList) = some (letter, rest.toList) := by
      simp [matchDrive, alpha, noNewline']
    unfold canonicalPathToLocalPath
    rw [layout, layoutNewline, unchanged _ noSlash, unchanged _ (by simpa using noSlash)]
    dsimp only
    rw [matched, matchedNewline]

/-- `/C:\a` and then a newline and `b` keeps its drive as `\C:`. -/
theorem canonicalPathToLocalPath_newline_inner :
    'C'.isAlpha = true ∧ '/' ∉ "\\a\nb".toList ∧
      (('\n' ∈ "\\a\nb".toList.dropLast →
          canonicalPathToLocalPath ("/" ++ String.singleton 'C' ++ ":" ++ "\\a\nb") =
            "\\" ++ String.singleton 'C' ++ ":" ++ "\\a\nb") ∧
        ('\n' ∉ "\\a\nb".toList →
          canonicalPathToLocalPath ("/" ++ String.singleton 'C' ++ ":" ++ "\\a\nb" ++ "\n") =
            canonicalPathToLocalPath ("/" ++ String.singleton 'C' ++ ":" ++ "\\a\nb"))) :=
  ⟨rfl, by decide, @canonicalPathToLocalPath_newline 'C' rfl _ (by decide)⟩

example : canonicalPathToLocalPath "/C:/x\n" = "C:\\x" := by decide

example : canonicalPathToLocalPath "/C:/a\nb" = "\\C:\\a\nb" := by decide

end GrrAcl
