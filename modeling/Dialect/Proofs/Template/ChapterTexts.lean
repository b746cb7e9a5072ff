import Dialect.Proofs.Template.Literals
import Dialect.Proofs.Template.Planning
import Dialect.Proofs.Template.Scanning

/-!
Joins over the chapters of a story.

`{join chapter_text with "…"}` iterates the list of chapters, as long as this is the only list
that the path `.chapters.text` reaches. Under the pin of each chapter the source is asked for the
text at the position of the pin, for the story that the record's `.id` names. So the join is the
texts of the source in order, or fails as the source does for the first position it has no text for
(`directive_chapters`, `render_chapters`, `render_chapters_error`).
-/

namespace Dialect.Template

open Grammar Text.Quoted
open Archive (ChapterSource chapterList chapterText chapterVocabulary)
open Query (clear_inQuotes QuotedLiteral)

variable {q cs after tail : List Char}

/-! ### How it is read -/

/-- The word for the text of a chapter. -/
def chapterWord : List Char := ['c', 'h', 'a', 'p', 't', 'e', 'r', '_', 't', 'e', 'x', 't']

/-- A node for the text of a chapter. -/
structure ChapterNode (n : ParseNode) : Prop where
  rule : n.rule = "custom_field"
  children : ∃ word, n.children = [word] ∧ word.rule = "chapter_text"

theorem chapter_taken (tail : List Char) :
    Takes (directives .chapterTexts) isBlank (.call "atom") (chapterWord ++ [' ']) tail
      (.single ChapterNode) := by
  have blank : Blank isBlank [' '] := by simp [Blank, isBlank]
  have word : TakesToken (directives .chapterTexts) .atomic
      (.seq (.literal chapterWord)
        (.notAhead (.choice (.one .asciiAlphanumeric) (.literal ['_']))))
      chapterWord ([' '] ++ tail) := by
    refine .whole_word rfl rfl (by decide) List.mem_cons_self ?_ (Clear.cons.mpr (by decide))
    intro w mem _
    exact List.mem_singleton.mp mem
  have name : Takes (directives .chapterTexts) isBlank (.call "chapter_text")
      (chapterWord ++ [' ']) tail (.single (Spans "chapter_text" chapterWord)) :=
    .atomic rfl blank word
  have field : Takes (directives .chapterTexts) isBlank (.call "custom_field")
      (chapterWord ++ [' ']) tail _ := .call rfl (by decide) name
  refine (Takes.call_silent (find?_atom .chapterTexts) (by decide) (.choice_left field)).imp ?_
  rintro _ ⟨n, rfl, rule, w, children, named, -⟩
  exact ⟨n, rfl, rule, w, children, named⟩

/-- A join of chapter texts with a literal between them. -/
structure JoinsChapters (q : List Char) (n : ParseNode) : Prop where
  rule : n.rule = "join"
  children : ∃ data separator chapter, n.children = [data, separator] ∧ data.rule = "data" ∧
    data.children = [chapter] ∧ ChapterNode chapter ∧ Lone q separator

/-- Such a join as it is written, without its braces. -/
def joinChars (q : List Char) : List Char :=
  ['j', 'o', 'i', 'n', ' '] ++ (chapterWord ++ ([' ', 'w', 'i', 't', 'h', ' '] ++ q))

theorem join_taken (quoted : InQuotes q) (after : List Char) :
    Takes (directives .chapterTexts) isBlank (.call "join") (joinChars q) ('\x7d' :: after)
      (.single (JoinsChapters q)) := by
  have skips := skips_blanks .chapterTexts
  have blank : Blank isBlank [' '] := by simp [Blank, isBlank]
  have tight : Clear isBlank ('\x7d' :: after) := Clear.cons.mpr (by decide)
  have start : Clear isBlank (q ++ '\x7d' :: after) := clear_inQuotes quoted (by decide) _
  have separator : Takes (directives .chapterTexts) isBlank (.call "data") q ('\x7d' :: after)
      (.single (Lone q)) := by
    refine (data_of_atom (atom_taken quoted tight (Clear.cons.mpr (by decide)))
      (atom_fails_brace after) tight).imp ?_
    rintro _ ⟨n, rfl, rule, literal, children, spans⟩
    exact ⟨n, rfl, rule, literal, children, spans⟩
  have with_ : Takes (directives .chapterTexts) isBlank (.literal ['w', 'i', 't', 'h'])
      (['w', 'i', 't', 'h'] ++ [' ']) (q ++ '\x7d' :: after) .none := .literal _ blank
  have behind := with_.seq skips separator start
  have stops : Fails (directives .chapterTexts) .spaced (.call "atom")
      ('w' :: 'i' :: 't' :: 'h' :: ' ' :: (q ++ '\x7d' :: after)) := by
    refine atom_fails fun mem => Clear.cons.mpr ?_
    rw [beq_eq_false_iff_ne]
    rintro rfl
    exact absurd mem (by decide)
  have data := data_of_atom (chapter_taken _) stops (Clear.cons.mpr (by decide))
  have body := data.seq skips behind (Clear.cons.mpr (by decide))
  have join : Takes (directives .chapterTexts) isBlank (.literal ['j', 'o', 'i', 'n'])
      (['j', 'o', 'i', 'n'] ++ [' '])
      (chapterWord ++ [' '] ++ (['w', 'i', 't', 'h'] ++ [' '] ++ q) ++ '\x7d' :: after) .none :=
    .literal _ blank
  have whole := join.seq skips body (Clear.cons.mpr (by decide))
  have text : ['j', 'o', 'i', 'n'] ++ [' '] ++
      (chapterWord ++ [' '] ++ (['w', 'i', 't', 'h'] ++ [' '] ++ q)) = joinChars q := by
    simp [joinChars]
  rw [text] at whole
  refine (Takes.call rfl (by decide) whole).imp ?_
  rintro _ ⟨n, rfl, rule, _, _, children, rfl, _, _, rfl, ⟨d, rfl, dataRule, c, inner, chapter⟩,
    _, _, rfl, rfl, s, rfl, lone⟩
  exact ⟨n, rfl, rule, d, s, c, children, dataRule, inner, chapter, lone⟩

theorem opens_chapters (quoted : InQuotes q) (after : List Char) :
    ∃ body n, Opens .chapterTexts ('\x7b' :: (joinChars q ++ '\x7d' :: after)) body after ∧
      body.nodes = [n] ∧ JoinsChapters q n :=
  opens_of_embed (.call_silent rfl (by decide) (.choice_left (join_taken quoted after)))
    (Clear.cons.mpr (by decide))

/-! ### What is made of it -/

section

variable {source : ChapterSource} {record id : Value} {n : ParseNode}

/-- The text of the chapter that is pinned, for a story. -/
def chapterPiece (source : ChapterSource) (story : String) : Generated where
  generator := .custom ("ChapterText(" ++ story ++ chapterList.text ++ ")")
    fun _ pins => chapterText source story pins
  requirements := .single ⟨["chapters", "text"]⟩

/-- The node of a chapter text is made for the story that the record's `.id` names. -/
theorem generatedOf_chapter (chapter : ChapterNode n)
    (story : FieldPath.resolve ⟨["id"]⟩ record ∅ = .ok id) :
    generatedOf (chapterVocabulary source) record n = .ok (chapterPiece source id.render) := by
  obtain ⟨_, text, start, stop, _⟩ := n
  obtain ⟨rfl, word, rfl, named⟩ := chapter
  unfold generatedOf
  change Archive.chapterField source _ record = _
  refine bind_eq_ok.mpr ⟨word, rfl, ?_⟩
  have is : word.is "chapter_text" = true := beq_iff_eq.mpr named
  rw [if_pos is]
  exact bind_eq_ok.mpr ⟨id, story, rfl⟩

/-- Under the pin of a chapter the source is asked for its position. -/
theorem generate_chapterPiece (story : String) (i : Nat) :
    (chapterPiece source story).generator.generate record (Pins.single chapterList i) =
      source story i := by
  rw [chapterPiece, Generator.generate, chapterText, FieldPath.get?_single, if_pos rfl]

/-- Where the list of chapters is the only boundary, the join is the texts that the source has for
its positions, in order, or fails as the source does. -/
theorem join_chapters {items : List Value}
    (single : (boundaries record (.single ⟨["chapters", "text"]⟩)).toList = [chapterList])
    (here : chapterList.resolve record ∅ = .ok (.list items)) (story separator : String) :
    join (.concat [chapterPiece source story]) (.concat [.constant separator]) record =
      ((List.range items.length).mapM (source story)).map fun texts =>
        .constant (between separator texts) := by
  have required : (Generated.concat [chapterPiece source story]).requirements ∪
      (Generated.concat [.constant separator]).requirements =
        .single ⟨["chapters", "text"]⟩ := by
    apply SortedSet.ext
    intro p
    simp [mem_requirements_concat, chapterPiece, Generated.constant]
  rw [join_planned (required ▸ single) here]
  have fixed : ((Generated.concat [.constant separator]).requirements.toList.find?
      fun p => p.prefixes.contains chapterList) = none := rfl
  have rendered : pieces (Generated.concat [chapterPiece source story]).generator record chapterList
      (List.range items.length) = (List.range items.length).mapM (source story) :=
    congrArg (List.mapM · _) (funext fun i => generate_chapterPiece story i)
  rw [fixed]
  dsimp only
  rw [rendered]
  change ((List.range items.length).mapM (source story) >>= fun texts =>
    pure (Generated.constant (separator.intercalate texts))) = _
  simp only [intercalate_eq_between]
  cases (List.range items.length).mapM (source story) with
  | ok texts => rfl
  | error fault => rfl

theorem generatedOf_joinsChapters {q : QuotedLiteral} (joins : JoinsChapters q.chars n)
    (story : FieldPath.resolve ⟨["id"]⟩ record ∅ = .ok id) :
    generatedOf (chapterVocabulary source) record n =
      join (.concat [chapterPiece source id.render]) (.concat [.constant q.value]) record := by
  obtain ⟨_, text, start, stop, _⟩ := n
  obtain ⟨rfl, ⟨_, text', start', stop', _⟩, separator, chapter, rfl, rfl, rfl, node, lone⟩ := joins
  have first : generatedAll (chapterVocabulary source) record [chapter] =
      .ok [chapterPiece source id.render] := by
    rw [generatedAll, generatedOf_chapter node story]
    rfl
  have data : generatedOf (chapterVocabulary source) record
      ⟨"data", text', start', stop', [chapter]⟩ =
        .ok (.concat [chapterPiece source id.render]) := by
    unfold generatedOf
    change (generatedAll _ record [chapter]).map Generated.concat = _
    rw [first]
    rfl
  have second : generatedOf (chapterVocabulary source) record separator =
      .ok (.concat [.constant q.value]) := by
    rw [generatedOf_lone lone, q.unquote_chars]
    rfl
  unfold generatedOf
  change (generatedOf _ record _ >>= fun d =>
    generatedOf _ record separator >>= fun s => join d s record) = _
  rw [data, second]
  rfl

variable {engine : Engine}

theorem directive_chapters (parser : engine.parser = (directives .chapterTexts).parse "directive")
    (vocabulary : engine.vocabulary = chapterVocabulary source)
    (story : FieldPath.resolve ⟨["id"]⟩ record ∅ = .ok id) {items : List Value}
    (single : (boundaries record (.single ⟨["chapters", "text"]⟩)).toList = [chapterList])
    (here : chapterList.resolve record ∅ = .ok (.list items)) (q : QuotedLiteral)
    (after : List Char) :
    engine.directive record ('\x7b' :: (joinChars q.chars ++ '\x7d' :: after)) =
      match (List.range items.length).mapM (source id.render) with
      | .ok texts => .ok (some ⟨between q.value texts,
          ('\x7b' :: (joinChars q.chars ++ ['\x7d'])).length⟩)
      | .error (.parse _) => .ok none
      | .error fault => .error fault := by
  obtain ⟨body, n, opens, one, joins⟩ := opens_chapters q.inQuotes after
  rw [directive_eq parser opens one, length_braces, outcome, vocabulary,
    generatedOf_joinsChapters joins story, join_chapters single here]
  cases (List.range items.length).mapM (source id.render) with
  | ok texts => rfl
  | error fault => cases fault <;> rfl

/-- A join of chapter texts as it is written in a template. -/
def joinDirective (q : QuotedLiteral) : String :=
  "\x7bjoin chapter_text with " ++ String.ofList q.chars ++ "\x7d"

theorem joinDirective_toList (q : QuotedLiteral) (t : String) :
    (joinDirective q ++ t).toList = '\x7b' :: (joinChars q.chars ++ '\x7d' :: t.toList) := by
  have start : "\x7bjoin chapter_text with ".toList =
      '\x7b' :: (['j', 'o', 'i', 'n', ' '] ++ (chapterWord ++ [' ', 'w', 'i', 't', 'h', ' '])) :=
    String.toList_ofList
  have brace : "\x7d".toList = ['\x7d'] := String.toList_ofList
  have directive : (joinDirective q).toList = '\x7b' :: (joinChars q.chars ++ ['\x7d']) := by
    unfold joinDirective
    rw [String.toList_append, String.toList_append, start, brace, String.toList_ofList, joinChars]
    simp only [List.append_assoc, List.cons_append, List.nil_append]
  rw [String.toList_append, directive]
  simp only [List.append_assoc, List.cons_append, List.nil_append]

/-- A template whose first directive fails is not rendered. -/
theorem render_error {engine : Engine} {t : String} {cs : List Char}
    (begins : t.toList = '\x7b' :: cs) (fails : engine.directive record t.toList = .error fault) :
    engine.render t record = .error fault := by
  rw [render_eq, begins, Engine.scan, if_pos rfl, ← begins, fails]
  rfl

section

variable (parser : engine.parser = (directives .chapterTexts).parse "directive")
  (vocabulary : engine.vocabulary = chapterVocabulary source)
  (story : FieldPath.resolve ⟨["id"]⟩ record ∅ = .ok id) {items : List Value}
  (single : (boundaries record (.single ⟨["chapters", "text"]⟩)).toList = [chapterList])
  (here : chapterList.resolve record ∅ = .ok (.list items)) (q : QuotedLiteral) (t : String)

include parser vocabulary story single here

/-- A join of chapter texts is rendered as the texts that the source has, in order. -/
theorem render_chapters (quotes : engine.consistentQuotes = false) {texts : List String}
    (given : List.Forall₂ (fun i text => source id.render i = .ok text)
      (List.range items.length) texts) :
    engine.render (joinDirective q ++ t) record =
      (engine.render t record).map (between q.value texts ++ ·) := by
  have found := directive_chapters parser vocabulary story single here q t.toList
  have whole : '\x7b' :: (joinChars q.chars ++ '\x7d' :: t.toList) =
      '\x7b' :: (joinChars q.chars ++ ['\x7d']) ++ t.toList := by simp
  rw [mapM_eq_ok.mpr given, whole] at found
  rw [render_eq, joinDirective_toList, whole, scan_directive found rfl, render_eq, quotes]
  cases engine.scan record 0 t.toList with
  | error fault => rfl
  | ok output => simp [Except.map, String.ofList_append]

/-- If the source has no text for some position, rendering fails as the source does for the first
of them. -/
theorem render_chapters_error {i : Nat} {fault : Error} (inside : i < items.length)
    (earlier : ∀ j < i, ∃ text, source id.render j = .ok text)
    (lacks : source id.render i = .error fault) (unrefused : ∀ refusal, fault ≠ .parse refusal) :
    engine.render (joinDirective q ++ t) record = .error fault := by
  have found := directive_chapters parser vocabulary story single here q t.toList
  have fails : (List.range items.length).mapM (source id.render) = .error fault := by
    obtain ⟨k, length⟩ := Nat.exists_eq_add_of_lt inside
    refine mapM_eq_error.mpr
      ⟨List.range i, i, ((List.range k).map Nat.succ).map (i + ·), ?_, ?_, lacks⟩
    · rw [length, Nat.add_assoc, List.range_add, List.range_succ_eq_map]
      rfl
    · intro j mem
      exact earlier j (List.mem_range.mp mem)
  refine render_error (joinDirective_toList q t) ?_
  rw [joinDirective_toList, found, fails]
  cases fault with
  | parse refusal => exact absurd rfl (unrefused refusal)
  | _ => rfl

/-- A source that holds all chapters renders them if there are as many as the record lists, and
otherwise says which one it lacks. -/
theorem render_chapters_ofList {stories : List (String × List String)}
    (held : source = .ofList stories) (quotes : engine.consistentQuotes = false) :
    engine.render (joinDirective q ++ t) record =
      let texts := (SortedMap.ofList stories).getD id.render []
      if items.length ≤ texts.length then
        (engine.render t record).map (between q.value (texts.take items.length) ++ ·)
      else .error (.vocabulary
        ("no text for chapter " ++ toString texts.length ++ " of story " ++ id.render)) := by
  subst held
  dsimp only
  set texts := (SortedMap.ofList stories).getD id.render [] with texts_eq
  have holds {i : Nat} (inside : i < texts.length) :
      ChapterSource.ofList stories id.render i = .ok texts[i] := by
    unfold ChapterSource.ofList
    rw [← texts_eq, List.getElem?_eq_getElem inside]
  by_cases enough : items.length ≤ texts.length
  · rw [if_pos enough]
    refine render_chapters parser vocabulary story single here q t quotes ?_
    refine List.forall₂_iff_get.mpr ⟨by simp [enough], ?_⟩
    intro i inside _
    have inside : i < items.length := by simpa using inside
    simpa using holds (Nat.lt_of_lt_of_le inside enough)
  · rw [if_neg enough]
    refine render_chapters_error parser vocabulary story single here q t (Nat.lt_of_not_le enough)
      (fun j inside => ⟨_, holds inside⟩) ?_ nofun
    unfold ChapterSource.ofList
    rw [← texts_eq, List.getElem?_eq_none (Nat.le_refl _)]

end

end

end Dialect.Template
