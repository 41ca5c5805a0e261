import FetchClient.Proofs.Toml.Quotes
import FetchClient.Toml.Reader

/-!
# Documents of lines with a key and an item

- `Line`: a key, an item, and how the item is written;
- `Line.readLines_text`: a line is read as one statement;
- `read?_lines`: the entries of a document are the keys and items of its lines.
-/

namespace FetchClient.Toml

/-! ## Keys -/

theorem isBare_ne {c d : Char} (hc : isBare c = true) (hd : isBare d = false) : c ≠ d := by
  rintro rfl
  rw [hc] at hd
  cases hd

theorem skipBlanks_cons {c : Char} (hc : isBlank c = false) (rest : List Char) :
    skipBlanks (c :: rest) = c :: rest :=
  List.dropWhile_cons_of_neg (by simp [hc])

/-- Whether a text is a key as it stands. -/
structure IsBareKey (key : List Char) : Prop where
  ne_nil : key ≠ []
  bare : ∀ c ∈ key, isBare c = true

variable {key : List Char}

theorem IsBareKey.exists_cons (hkey : IsBareKey key) :
    ∃ c more, key = c :: more ∧ isBare c = true := by
  obtain ⟨c, more, rfl⟩ := List.exists_cons_of_ne_nil hkey.ne_nil
  exact ⟨c, more, rfl, hkey.bare c List.mem_cons_self⟩

theorem IsBareKey.skipBlanks_append (hkey : IsBareKey key) (rest : List Char) :
    skipBlanks (key ++ rest) = key ++ rest := by
  obtain ⟨c, more, rfl, hc⟩ := hkey.exists_cons
  refine skipBlanks_cons (?_ : isBlank c = false) _
  simp [isBlank, isBare_ne hc (show isBare ' ' = false from rfl),
    isBare_ne hc (show isBare '\t' = false from rfl)]

theorem IsBareKey.readSimpleKey_append (hkey : IsBareKey key) (rest : List Char) :
    readSimpleKey (key ++ ' ' :: rest) = some (String.ofList key, ' ' :: rest) := by
  have htake : (key ++ ' ' :: rest).takeWhile isBare = key := by
    rw [List.takeWhile_append_of_pos hkey.bare, List.takeWhile_cons_of_neg (by decide),
      List.append_nil]
  unfold readSimpleKey
  split
  · obtain ⟨c, more, rfl, hc⟩ := hkey.exists_cons
    obtain ⟨rfl, -⟩ := List.cons.inj ‹_›
    cases hc
  · obtain ⟨c, more, rfl, hc⟩ := hkey.exists_cons
    obtain ⟨rfl, -⟩ := List.cons.inj ‹_›
    cases hc
  · rw [htake]
    simp [hkey.ne_nil]

/-- A key in front of an equals sign. -/
theorem IsBareKey.readKey_append (hkey : IsBareKey key) (rest : List Char) :
    readKey (key ++ ' ' :: '=' :: rest) = some (⟨[], String.ofList key⟩, '=' :: rest) := by
  unfold readKey maxKeys readKeyWithin
  rw [hkey.skipBlanks_append, hkey.readSimpleKey_append]
  rfl

/-! ## Items -/

/-- Whether an item is written in such a way that it is read back from the end of a line. -/
structure Writes (written : List Char) (item : Item) : Prop where
  begins : ∀ rest, skipBlanks (written ++ rest) = written ++ rest
  read : ∀ rest, readItem maxDepth (written ++ '\n' :: rest) = some (item, '\n' :: rest)

theorem exists_writeText (text : List Char) :
    ∃ quote rest, writeText text = quote :: rest ∧ (quote = '"' ∨ quote = '\'') := by
  unfold writeText
  cases Quotes.choose text with
  | basic | longBasic => exact ⟨_, _, rfl, .inl rfl⟩
  | literal | longLiteral => exact ⟨_, _, rfl, .inr rfl⟩

theorem writes_text (text : List Char) :
    Writes (writeText text) (.text (String.ofList text)) := by
  obtain ⟨quote, inside, hwritten, hquote⟩ := exists_writeText text
  constructor
  · intro rest
    rw [hwritten, List.cons_append, skipBlanks_cons]
    rcases hquote with rfl | rfl <;> rfl
  · intro rest
    have hread := readText_writeText text rest
    rw [hwritten, List.cons_append] at hread ⊢
    rcases hquote with rfl | rfl <;> simp only [maxDepth, readItem, hread, Option.map_some]

theorem writes_flag (flag : Bool) :
    Writes (if flag then "true" else "false").toList (.flag flag) := by
  cases flag with
  | false => exact ⟨fun rest => rfl, fun rest => rfl⟩
  | true => exact ⟨fun rest => rfl, fun rest => rfl⟩

/-! ## Lines -/

/-- A line that gives an item to a key, and how the item is written. -/
structure Line where
  key : String
  written : List Char
  item : Item

namespace Line

def text (line : Line) : List Char :=
  line.key.toList ++ [' ', '=', ' '] ++ line.written ++ ['\n']

def entry (line : Line) : String × Item := (line.key, line.item)

structure IsSound (line : Line) : Prop where
  key : IsBareKey line.key.toList
  item : Writes line.written line.item

theorem text_append (line : Line) (rest : List Char) :
    line.text ++ rest = line.key.toList ++ ' ' :: '=' :: ' ' :: (line.written ++ '\n' :: rest) := by
  simp [text]

variable {line : Line}

theorem IsSound.exists_cons (h : line.IsSound) (rest : List Char) :
    ∃ c more, line.text ++ rest = c :: more ∧ isBare c = true := by
  obtain ⟨c, more, hkey, hc⟩ := h.key.exists_cons
  exact ⟨c, _, by rw [text_append, hkey, List.cons_append], hc⟩

theorem IsSound.read_text (h : line.IsSound) (rest : List Char) :
    Statement.read (line.text ++ rest) =
      some (.entry ⟨[], line.key⟩ line.item, '\n' :: rest) := by
  have hkey := h.key.readKey_append (' ' :: (line.written ++ '\n' :: rest))
  rw [← text_append, String.ofList_toList] at hkey
  have hskip : skipBlanks (' ' :: (line.written ++ '\n' :: rest)) = line.written ++ '\n' :: rest :=
    (List.dropWhile_cons_of_pos rfl).trans (h.item.begins _)
  obtain ⟨c, more, htext, hc⟩ := h.exists_cons rest
  rw [htext] at hkey ⊢
  rw [Statement.read, hkey]
  · simp only [Option.bind_eq_bind, Option.bind_some, hskip, h.item.read]
    rfl
  all_goals
    rintro _ hbracket
    obtain ⟨rfl, -⟩ := List.cons.inj hbracket
    cases hc

/-- A line is not blank. -/
theorem IsSound.lineEnd?_text (h : line.IsSound) (rest : List Char) :
    lineEnd? (line.text ++ rest) = none := by
  have hskip := h.key.skipBlanks_append (' ' :: '=' :: ' ' :: (line.written ++ '\n' :: rest))
  rw [← text_append] at hskip
  obtain ⟨c, more, htext, hc⟩ := h.exists_cons rest
  have hne {d : Char} (hd : isBare d = false) : c ≠ d := isBare_ne hc hd
  unfold lineEnd?
  rw [hskip, htext]
  simp [newline?, hne (show isBare '#' = false from rfl), hne (show isBare '\n' = false from rfl),
    hne (show isBare '\r' = false from rfl)]

/-- A line is read as one statement. -/
theorem IsSound.readLines_text (h : line.IsSound) (count : Nat) (rest : List Char) :
    Statement.readLines (count + 1) (line.text ++ rest) =
      (Statement.readLines count rest).map (.entry ⟨[], line.key⟩ line.item :: ·) := by
  have hskip := h.key.skipBlanks_append (' ' :: '=' :: ' ' :: (line.written ++ '\n' :: rest))
  rw [← text_append] at hskip
  have hnonempty : (line.text ++ rest).isEmpty = false := by
    obtain ⟨c, more, htext, -⟩ := h.exists_cons rest
    rw [htext, List.isEmpty_cons]
  have hend : lineEnd? ('\n' :: rest) = some rest := rfl
  rw [Statement.readLines, hnonempty, h.lineEnd?_text, hskip, h.read_text]
  simp only [Option.bind_eq_bind, Option.bind_some, hend]
  cases Statement.readLines count rest <;> rfl

theorem readLines_texts {lines : List Line} (h : ∀ line ∈ lines, line.IsSound) {count : Nat}
    (hcount : lines.length < count) :
    Statement.readLines count (lines.flatMap text) =
      some (lines.map fun line => .entry ⟨[], line.key⟩ line.item) := by
  induction lines generalizing count with
  | nil =>
    obtain ⟨count, rfl⟩ := Nat.exists_eq_succ_of_ne_zero hcount.ne'
    rfl
  | cons line lines ih =>
    obtain ⟨count, rfl⟩ := Nat.exists_eq_succ_of_ne_zero (Nat.ne_zero_of_lt hcount)
    obtain ⟨hline, hlines⟩ := List.forall_mem_cons.mp h
    rw [List.flatMap_cons, hline.readLines_text, ih hlines (Nat.lt_of_succ_lt_succ hcount)]
    rfl

theorem length_le_flatMap_text (lines : List Line) :
    lines.length ≤ (lines.flatMap text).length := by
  induction lines with
  | nil => exact Nat.le_refl 0
  | cons line lines ih =>
    rw [List.flatMap_cons, List.length_cons, List.length_append]
    have hline : 0 < line.text.length := by
      rw [text, List.length_append, List.length_singleton]
      omega
    omega

theorem read?_texts {lines : List Line} (h : ∀ line ∈ lines, line.IsSound) :
    Statement.read? (lines.flatMap text) =
      some (lines.map fun line => .entry ⟨[], line.key⟩ line.item) := by
  rw [Statement.read?, readLines_texts h (Nat.lt_succ_of_le (length_le_flatMap_text lines))]
  intro rest hmark
  cases lines with
  | nil => cases hmark
  | cons line lines =>
    obtain ⟨c, more, htext, hc⟩ := (h line List.mem_cons_self).exists_cons (lines.flatMap text)
    rw [List.flatMap_cons, htext] at hmark
    obtain ⟨rfl, -⟩ := List.cons.inj hmark
    cases hc

/-- A new key is added at the end. -/
theorem obey?_entry {entries : Entries} {key : String} (item : Item)
    (hnew : entries.lookup key = none) :
    Document.obey? ⟨entries, []⟩ (.entry ⟨[], key⟩ item) =
      some ⟨entries ++ [(key, item)], []⟩ := by
  simp [Document.obey?, Entries.insertIn?, Entries.change?, Entries.insert?, Entries.add?, hnew]

theorem foldlM_obey? (entries : Entries) {lines : List Line}
    (hkeys : (entries.map Prod.fst ++ lines.map Line.key).Nodup) :
    (lines.map fun line => Statement.entry ⟨[], line.key⟩ line.item).foldlM Document.obey?
      ⟨entries, []⟩ = some ⟨entries ++ lines.map entry, []⟩ := by
  induction lines generalizing entries with
  | nil => simp
  | cons line lines ih =>
    have hnew : entries.lookup line.key = none := by
      rw [List.lookup_eq_none_iff]
      intro entry hentry
      have hother := (List.nodup_append.mp hkeys).2.2 entry.1 (List.mem_map_of_mem hentry) line.key
        List.mem_cons_self
      exact bne_iff_ne.mpr hother.symm
    rw [List.map_cons, List.foldlM_cons, obey?_entry _ hnew]
    have hrest := ih (entries ++ [line.entry]) (by simpa [entry] using hkeys)
    simpa [entry] using hrest

end Line

/-- The entries of a document are those of its lines. -/
theorem read?_lines {lines : List Line} (h : ∀ line ∈ lines, line.IsSound)
    (hkeys : (lines.map Line.key).Nodup) :
    read? (String.ofList (lines.flatMap Line.text)) = some (lines.map Line.entry) := by
  have hobeyed := Line.foldlM_obey? [] hkeys
  rw [read?, String.toList_ofList, Line.read?_texts h]
  simp only [Option.bind_eq_bind, Option.bind_some, Document.empty, hobeyed]
  rfl

end FetchClient.Toml
