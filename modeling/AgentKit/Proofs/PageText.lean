import AgentKit.StatusPage
import AgentKit.Proofs.TimestampText

/-!
# Reading a status page back

A page consists of four fixed pieces and the three segments between them. No segment holds a
character that begins or ends an element: the answer about the key and the time are made of other
characters, and in the names such characters are written as entities. So the angle brackets of a
page are those of its fixed pieces, whatever the names are, and the page can be cut in one way only.

An entity stands for one character, and no character that is written as itself begins an entity. So
reading the entities undoes the writing, also where a name looks like an entity or like a page.
-/

namespace AgentKit.StatusPage

/-- The characters that begin and end elements and the values in them. -/
def delimiters : List Char := ['<', '>', '"']

/-- What is written for a character with a meaning of its own. -/
def entities : List (List Char) :=
  ["&amp;".toList, "&lt;".toList, "&gt;".toList, "&quot;".toList]

/-- Page text read back: an entity stands for its character, and all else for itself. -/
def unescape : List Char → List Char
  | '&' :: 'a' :: 'm' :: 'p' :: ';' :: rest => '&' :: unescape rest
  | '&' :: 'l' :: 't' :: ';' :: rest => '<' :: unescape rest
  | '&' :: 'g' :: 't' :: ';' :: rest => '>' :: unescape rest
  | '&' :: 'q' :: 'u' :: 'o' :: 't' :: ';' :: rest => '"' :: unescape rest
  | other :: rest => other :: unescape rest
  | [] => []

/-- Every ampersand begins an entity. -/
def BeginEntities (text : List Char) : Prop :=
  ∀ front back, text = front ++ '&' :: back → ∃ entity ∈ entities, entity <+: '&' :: back

/-- What holds of each of the delimiters. -/
theorem forall_delimiters {holds : Char → Prop} :
    (∀ delimiter ∈ delimiters, holds delimiter) ↔ holds '<' ∧ holds '>' ∧ holds '"' := by
  simp [delimiters]

/-- No delimiter is written for any character. -/
theorem delimiter_not_mem_escape (character : Char) :
    ∀ delimiter ∈ delimiters, delimiter ∉ escape character := by
  unfold escape
  split
  · exact forall_delimiters.mpr (by decide)
  · exact forall_delimiters.mpr (by decide)
  · exact forall_delimiters.mpr (by decide)
  · exact forall_delimiters.mpr (by decide)
  · rename_i notLess notGreater notQuote
    intro delimiter member written
    rw [List.mem_singleton.mp written] at member
    simp only [delimiters, List.mem_cons, List.not_mem_nil, or_false] at member
    exact member.elim notLess (Or.elim · notGreater notQuote)

/-- No delimiter stands in an escaped text. -/
theorem delimiter_not_mem_escaped (text : List Char) :
    ∀ delimiter ∈ delimiters, delimiter ∉ text.flatMap escape := by
  intro delimiter member written
  obtain ⟨character, _, inside⟩ := List.mem_flatMap.mp written
  exact delimiter_not_mem_escape character delimiter member inside

namespace BeginEntities

/-- There is nothing to show for a text without ampersands. -/
theorem of_not_mem {text : List Char} (none : '&' ∉ text) : BeginEntities text := by
  rintro front back rfl
  exact absurd (List.mem_append_right front List.mem_cons_self) none

/-- An entity has one ampersand, its own. -/
theorem entity {tail : List Char} (known : '&' :: tail ∈ entities) (single : '&' ∉ tail) :
    BeginEntities ('&' :: tail) := by
  intro front back cut
  cases front with
  | nil => exact ⟨_, known, by rw [cut]; exact List.prefix_refl _⟩
  | cons first later =>
    have again : '&' ∈ tail := by
      rw [(List.cons.inj cut).2]
      exact List.mem_append_right later List.mem_cons_self
    exact absurd again single

/-- An entity that begins in one text ends in it, so what follows the text does not matter. -/
theorem append {text more : List Char} (first : BeginEntities text)
    (second : BeginEntities more) : BeginEntities (text ++ more) := by
  intro front back cut
  rcases List.append_eq_append_iff.mp cut with ⟨between, _, rest⟩ | ⟨inside, whole, rest⟩
  · exact second between back rest
  · cases inside with
    | nil => exact second [] back rest.symm
    | cons mark later =>
      obtain ⟨rfl, rfl⟩ := List.cons.inj rest
      obtain ⟨entity, known, begins⟩ := first front later whole
      exact ⟨entity, known, begins.trans (List.prefix_append ('&' :: later) more)⟩

/-- What is written for a character begins with its only ampersand, if it has one. -/
theorem escape (character : Char) : BeginEntities (StatusPage.escape character) := by
  unfold StatusPage.escape
  split
  · exact entity (by decide) (by decide)
  · exact entity (by decide) (by decide)
  · exact entity (by decide) (by decide)
  · exact entity (by decide) (by decide)
  · rename_i plain _ _ _
    exact of_not_mem fun same => plain (List.mem_singleton.mp same).symm

/-- In an escaped text every ampersand begins an entity. -/
theorem escaped (text : List Char) : BeginEntities (text.flatMap StatusPage.escape) := by
  induction text with
  | nil => exact of_not_mem List.not_mem_nil
  | cons character rest inductionHypothesis =>
    rw [List.flatMap_cons]
    exact (escape character).append inductionHypothesis

end BeginEntities

/-- A written character is read back, whatever follows it. -/
theorem unescape_escape (character : Char) (rest : List Char) :
    unescape (escape character ++ rest) = character :: unescape rest := by
  unfold escape
  split
  · rfl
  · rfl
  · rfl
  · rfl
  · rename_i plain _ _ _
    rw [List.singleton_append, unescape]
    all_goals exact fun _ same => absurd same plain

/-- An escaped text is read back. -/
theorem unescape_escaped (text : List Char) : unescape (text.flatMap escape) = text := by
  induction text with
  | nil => rfl
  | cons character rest inductionHypothesis =>
    rw [List.flatMap_cons, unescape_escape, inductionHypothesis]

example : unescape (escapeName "&lt;</p>\n<p>Time: ") = "&lt;</p>\n<p>Time: ".toList := by decide

/-- Parts that are escaped one by one, with a separator between them, are escaped together. -/
theorem flatMap_intercalate (separator : List Char) (parts : List (List Char)) :
    (separator.intercalate parts).flatMap escape =
      (separator.flatMap escape).intercalate (parts.map fun part => part.flatMap escape) := by
  induction parts with
  | nil => rfl
  | cons part later inductionHypothesis =>
    cases later with
    | nil => simp
    | cons second rest =>
      simp only [List.intercalate_cons_cons, List.flatMap_append, inductionHypothesis,
        List.map_cons]

/-- What a page says about the names, before it is escaped. -/
def shownNames (page : StatusPage) : List Char :=
  if page.names = [] then "(empty)".toList
  else (", ".toList).intercalate (page.names.map String.toList)

/-- The names on a page are escaped as a whole. -/
theorem namesText_eq (page : StatusPage) : page.namesText = page.shownNames.flatMap escape := by
  unfold namesText shownNames
  split
  · rename_i none
    rw [if_pos none]
    rfl
  · rename_i some
    rw [if_neg (by simpa using some), flatMap_intercalate, List.map_map]
    rfl

/-- What stands between the fixed pieces of a page. -/
structure Segments where
  key : List Char
  names : List Char
  time : List Char

namespace Segments

/-- Segments with the fixed pieces around them. -/
def text (segments : Segments) : List Char :=
  opening ++ segments.key ++ beforeNames ++ segments.names ++ beforeTime ++ segments.time ++
    closing

/-- The names end at the first closing tag behind their label. -/
def EndAtTag (segments : Segments) : Prop :=
  ∀ front back, segments.names ++ beforeTime ++ segments.time ++ closing =
    front ++ "</p>".toList ++ back → segments.names <+: front

/-- No segment holds a delimiter. -/
structure Plain (segments : Segments) : Prop where
  key : ∀ delimiter ∈ delimiters, delimiter ∉ segments.key
  names : ∀ delimiter ∈ delimiters, delimiter ∉ segments.names
  time : ∀ delimiter ∈ delimiters, delimiter ∉ segments.time

end Segments

/-- The segments of a page. -/
def segments (page : StatusPage) : Segments := ⟨page.keyText, page.namesText, page.clock.text⟩

/-- The fixed pieces of a page. -/
def template : List Char := opening ++ beforeNames ++ beforeTime ++ closing

/-- A character that begins or ends an element. -/
def isAngle (character : Char) : Bool := character == '<' || character == '>'

/-- A text without a mark ends in front of every place where the mark stands. -/
theorem prefix_of_mark {mark : Char} {front other back rest : List Char} (plain : mark ∉ front)
    (same : front ++ back = other ++ mark :: rest) : front <+: other := by
  rcases List.append_eq_append_iff.mp same with ⟨between, whole, _⟩ | ⟨between, whole, behind⟩
  · exact ⟨between, whole.symm⟩
  · cases between with
    | nil => exact ⟨[], by rw [List.append_nil, whole, List.append_nil]⟩
    | cons first later =>
      rw [whole, ← (List.cons.inj behind).1] at plain
      exact absurd (List.mem_append_right other List.mem_cons_self) plain

/-- A text is cut in one way only in front of a piece that begins with a mark. -/
theorem cut_unique {mark : Char} {piece front other back rest : List Char}
    (begins : piece.head? = some mark) (plain : mark ∉ front) (alsoPlain : mark ∉ other)
    (same : front ++ (piece ++ back) = other ++ (piece ++ rest)) : front = other ∧ back = rest := by
  obtain ⟨tail, rfl⟩ := List.head?_eq_some_iff.mp begins
  have shorter := prefix_of_mark plain same
  have longer := prefix_of_mark alsoPlain same.symm
  obtain rfl := shorter.eq_of_length_le longer.length_le
  exact ⟨rfl, List.append_cancel_left (List.append_cancel_left same)⟩

namespace Segments

/-- Segments without angle brackets are the only ones with their text: the fixed pieces hold all
the brackets of the text, so no other segments hold one either. -/
theorem Plain.unique {segments other : Segments} (plain : segments.Plain)
    (same : other.text = segments.text) : other = segments := by
  have angle : '<' ∈ delimiters := by decide
  have counts := congrArg (List.count '<') same
  simp only [text, List.count_append, List.count_eq_zero.mpr (plain.key '<' angle),
    List.count_eq_zero.mpr (plain.names '<' angle),
    List.count_eq_zero.mpr (plain.time '<' angle)] at counts
  have key : '<' ∉ other.key := List.count_eq_zero.mp (by omega)
  have names : '<' ∉ other.names := List.count_eq_zero.mp (by omega)
  have time : '<' ∉ other.time := List.count_eq_zero.mp (by omega)
  simp only [text, List.append_assoc] at same
  obtain ⟨sameKey, same⟩ := cut_unique (by decide) key (plain.key '<' angle)
    (List.append_cancel_left same)
  obtain ⟨sameNames, same⟩ := cut_unique (by decide) names (plain.names '<' angle) same
  have sameTime := List.append_cancel_right same
  cases other
  cases segments
  cases sameKey
  cases sameNames
  cases sameTime
  rfl

/-- Names without angle brackets end where the next tag begins. -/
theorem Plain.endAtTag {segments : Segments} (plain : segments.Plain) : segments.EndAtTag := by
  intro front back cut
  rw [List.append_assoc, List.append_assoc, List.append_assoc] at cut
  exact prefix_of_mark (plain.names '<' (by decide)) cut

end Segments

/-- The time is written without delimiters and without ampersands. -/
theorem not_mem_clock_text (clock : Clock) : ∀ mark ∈ '&' :: delimiters, mark ∉ clock.text := by
  have letters : ∀ character ∈ clock.text, CivilTime.IsLetter character := by
    cases clock with
    | standing timestamp => exact (Timestamp.spells_civil timestamp).letters
    | masked =>
      have zeros : Clock.masked.text.all (fun character => decide (CivilTime.IsLetter character)) =
          true := by decide
      simpa only [List.all_eq_true, decide_eq_true_eq] using zeros
  have foreign : ∀ mark ∈ '&' :: delimiters, ¬ CivilTime.IsLetter mark :=
    List.forall_mem_cons.mpr ⟨by decide, forall_delimiters.mpr (by decide)⟩
  exact fun mark member written => foreign mark member (letters mark written)

/-- No segment of a page holds a delimiter. -/
theorem segments_plain (page : StatusPage) : page.segments.Plain where
  key := by
    change ∀ delimiter ∈ delimiters, delimiter ∉ page.keyText
    unfold keyText
    split <;> exact forall_delimiters.mpr (by decide)
  names := by
    rw [segments, namesText_eq]
    exact delimiter_not_mem_escaped page.shownNames
  time delimiter member := not_mem_clock_text page.clock delimiter (List.mem_cons_of_mem _ member)

/-- The answer about the key tells whether there is one. -/
theorem keyText_tells (page : StatusPage) :
    (page.keyText = "yes".toList ↔ page.hasKey = true) ∧
      (page.keyText = "no".toList ↔ page.hasKey = false) := by
  unfold keyText
  generalize page.hasKey = configured
  revert configured
  decide

/-- Of a text without delimiters no character is an angle bracket. -/
theorem filter_isAngle {text : List Char}
    (plain : ∀ delimiter ∈ delimiters, delimiter ∉ text) : text.filter isAngle = [] := by
  apply List.filter_eq_nil_iff.mpr
  intro character member angle
  refine plain character ?_ member
  simp only [isAngle, Bool.or_eq_true, beq_iff_eq] at angle
  simp [delimiters, angle, ← or_assoc]

/-- The angle brackets of a page are those of its fixed pieces. -/
theorem text_angles (page : StatusPage) : page.text.filter isAngle = template.filter isAngle := by
  have plain := page.segments_plain
  have key : page.keyText.filter isAngle = [] := filter_isAngle plain.key
  have names : page.namesText.filter isAngle = [] := filter_isAngle plain.names
  have time : page.clock.text.filter isAngle = [] := filter_isAngle plain.time
  simp only [text, template, List.filter_append, key, names, time, List.append_nil]

/-- No quotation mark stands on a page. -/
theorem quote_not_mem_text (page : StatusPage) : '"' ∉ page.text := by
  have plain := page.segments_plain
  have quote : '"' ∈ delimiters := by decide
  have key : '"' ∉ page.keyText := plain.key _ quote
  have names : '"' ∉ page.namesText := plain.names _ quote
  have time : '"' ∉ page.clock.text := plain.time _ quote
  have fixed : '"' ∉ opening ∧ '"' ∉ beforeNames ∧ '"' ∉ beforeTime ∧ '"' ∉ closing := by decide
  simp only [text, List.mem_append, not_or]
  exact ⟨⟨⟨⟨⟨⟨fixed.1, key⟩, fixed.2.1⟩, names⟩, fixed.2.2.1⟩, time⟩, fixed.2.2.2⟩

/-- Every ampersand of a page begins an entity. -/
theorem text_beginEntities (page : StatusPage) : BeginEntities page.text := by
  have key : BeginEntities page.keyText := by
    unfold keyText
    split <;> exact .of_not_mem (by decide)
  have names : BeginEntities page.namesText := by
    rw [namesText_eq]
    exact .escaped page.shownNames
  have time : BeginEntities page.clock.text :=
    .of_not_mem (not_mem_clock_text page.clock '&' List.mem_cons_self)
  have first : BeginEntities opening := .of_not_mem (by decide)
  have second : BeginEntities beforeNames := .of_not_mem (by decide)
  have third : BeginEntities beforeTime := .of_not_mem (by decide)
  have last : BeginEntities closing := .of_not_mem (by decide)
  exact (((((first.append key).append second).append names).append third).append time).append last

/-- A page is safe and can be read back, whatever its names are. -/
structure ReadsBack (page : StatusPage) : Prop where
  /-- The angle brackets are those of the fixed pieces. -/
  angles : page.text.filter isAngle = template.filter isAngle
  quotes : '"' ∉ page.text
  entities : BeginEntities page.text
  /-- The page is cut at its fixed pieces in one way only. -/
  cut : ∀ segments : Segments, segments.text = page.text ↔ segments = page.segments
  /-- The names end at the first closing tag behind their label. -/
  ends : page.segments.EndAtTag
  key : (page.segments.key = "yes".toList ↔ page.hasKey = true) ∧
    (page.segments.key = "no".toList ↔ page.hasKey = false)
  time : page.segments.time = page.clock.text
  names : unescape page.segments.names = page.shownNames

/-- Every page is safe and can be read back: for each answer about the key, all names and every
time. -/
theorem page_reads_back (page : StatusPage) : page.ReadsBack := by
  have plain := page.segments_plain
  constructor
  · exact page.text_angles
  · exact page.quote_not_mem_text
  · exact page.text_beginEntities
  · intro segments
    constructor
    · exact plain.unique
    · rintro rfl
      rfl
  · exact plain.endAtTag
  · exact page.keyText_tells
  · rfl
  · rw [segments, namesText_eq]
    exact unescape_escaped page.shownNames

end AgentKit.StatusPage
