import ReportRouting.Proofs.TagText

/-!
Rules written down and read again.

A rule that a file can state is read again from the line that displays it, but for one thing.
Displaying puts a blank after each comma, and a recipient that begins with a `#` begins a comment
there.
-/

namespace ReportRouting

open Text

/-- The rules, one to a line. -/
def ruleText (rules : List Rule) : String :=
  "\n".intercalate (rules.map Rule.display)

/-- The rules, as if each stood on the line of its place. -/
def renumber (rules : List Rule) : List Rule :=
  (rules.zipIdx 1).map fun p => { p.1 with line := p.2 }

/-! ### Recipients written and read -/

theorem IsRecipient.isGap_eq_false {name : String} (h : IsRecipient name) :
    ∀ c ∈ name.toList, isGap c = false := by
  intro c hc
  have hcomma : c ≠ ',' := fun hcomma => h.comma_not_mem (hcomma ▸ hc)
  simp [isGap, hcomma, h.isWord.isBlank_eq_false c hc]

theorem readRecipients_append {name : String} (h : IsRecipient name) (s : List Char) :
    readRecipients (name.toList ++ ',' :: ' ' :: s) = name :: readRecipients s := by
  have hgap : ∀ c ∈ [',', ' '], isGap c = true :=
    List.forall_mem_cons.2 ⟨rfl, List.forall_mem_singleton.2 rfl⟩
  rw [readRecipients_name_append h.isWord.ne_nil h.isGap_eq_false (by simp; rfl),
    String.ofList_toList]
  exact congrArg (name :: ·) (readRecipients_append_of_gap hgap s)

theorem readRecipients_spaced {names : List String} (h : ∀ name ∈ names, IsRecipient name) :
    readRecipients (spaced (names.map String.toList)) = names := by
  induction names with
  | nil => rfl
  | cons name names ih =>
      obtain ⟨hname, htail⟩ := List.forall_mem_cons.1 h
      have htail := ih htail
      cases names with
      | nil =>
          rw [List.map_singleton, spaced_singleton,
            readRecipients_of_no_gap hname.isWord.ne_nil hname.isGap_eq_false,
            String.ofList_toList]
      | cons name' names =>
          simp only [List.map_cons] at htail ⊢
          rw [spaced_cons_cons, readRecipients_append hname, htail]

theorem colon_not_mem_spaced {names : List String} (h : ∀ name ∈ names, IsRecipient name) :
    ':' ∉ spaced (names.map String.toList) := by
  intro hmem
  rcases mem_spaced hmem with hc | hc | ⟨w, hw, hc⟩
  · cases hc
  · cases hc
  · obtain ⟨name, hname, rfl⟩ := List.mem_map.1 hw
    exact (h name hname).colon_not_mem hc

/-! ### The line of a rule -/

namespace Rule

theorem toList_display (r : Rule) :
    r.display.toList =
      spaced (r.recipients.map String.toList) ++ ':' :: ' ' :: r.tags.display.toList := by
  rw [display, String.toList_append, String.toList_append, String.toList_intercalate, spaced,
    List.append_assoc]
  rfl

/-- A recipient behind others stands behind a blank. -/
theorem exists_toList_display_eq {r : Rule} {earlier later : List String} {name : String}
    (hrecipients : r.recipients = earlier ++ name :: later) (hne : earlier ≠ [])
    (hhash : name.toList.head? = some '#') :
    ∃ back, r.display.toList =
      (spaced (earlier.map String.toList) ++ [',', ' ']) ++ '#' :: back := by
  obtain ⟨rest, hrest⟩ := List.head?_eq_some_iff.1 hhash
  have hhead := head?_spaced_cons (List.cons_ne_nil '#' rest) (later.map String.toList)
  obtain ⟨back, hback⟩ := List.head?_eq_some_iff.1 hhead
  have hwords : earlier.map String.toList ≠ [] := by simpa using hne
  have hsplit := spaced_append hwords (List.cons_ne_nil name.toList (later.map String.toList))
  refine ⟨back ++ ':' :: ' ' :: r.tags.display.toList, ?_⟩
  rw [toList_display, hrecipients, List.map_append, List.map_cons, hsplit, hrest, hback]
  simp

variable {r : Rule} (h : r.IsStated)

include h

theorem isWord_of_mem_recipients : ∀ w ∈ r.recipients.map String.toList, IsWord w := by
  rw [List.forall_mem_map]
  exact fun name hname => (h.isRecipient name hname).isWord

theorem isWord_of_mem_tokens : ∀ w ∈ r.tags.tokens.map TagToken.text, IsWord w := by
  rw [List.forall_mem_map]
  exact fun token htoken =>
    TagToken.isWord_text (TagExpr.isProper_of_mem_tokens h.tags token htoken)

/-- The blanks of the line are those that displaying puts there. -/
theorem eq_space_of_mem_display {c : Char} (hc : c ∈ r.display.toList) (hblank : isBlank c = true) :
    c = ' ' := by
  have hrow : ∀ words, (∀ w ∈ words, IsWord w) → c ∈ spaced words → c = ' ' := by
    intro words hwords hmem
    rcases mem_spaced hmem with rfl | hspace | ⟨w, hw, hcw⟩
    · cases hblank
    · exact hspace
    · rw [(hwords w hw).isBlank_eq_false c hcw] at hblank
      cases hblank
  rw [toList_display, TagExpr.toList_display] at hc
  simp only [List.mem_append, List.mem_cons] at hc
  rcases hc with hc | rfl | hc | hc
  · exact hrow _ (isWord_of_mem_recipients h) hc
  · cases hblank
  · exact hc
  · exact hrow _ (isWord_of_mem_tokens h) hc

theorem head?_display :
    r.display.toList.head? = (spaced (r.recipients.map String.toList)).head? := by
  have hne := spaced_ne_nil (by simpa using h.recipients_ne_nil) (isWord_of_mem_recipients h)
  rw [toList_display, List.head?_append_of_ne_nil _ hne]

theorem trim_display : trim r.display.toList = r.display.toList := by
  apply trim_eq_self
  · rw [head?_display h]
    exact isBlank_head?_spaced (isWord_of_mem_recipients h)
  · have hne := spaced_ne_nil (by simpa using TagExpr.tokens_ne_nil h.tags)
      (isWord_of_mem_tokens h)
    rw [toList_display, TagExpr.toList_display, List.getLast?_append_of_ne_nil _ (by simp),
      List.getLast?_cons_of_ne_nil (by simp), List.getLast?_cons_of_ne_nil hne]
    exact isBlank_getLast?_spaced (isWord_of_mem_tokens h)

theorem isCommentLine_display_iff :
    IsCommentLine r.display.toList ↔
      (spaced (r.recipients.map String.toList)).head? = some '#' := by
  rw [IsCommentLine, ← head?_trim, trim_display h, head?_display h]

/-- Without a `#` at the beginning of a recipient there is no comment in the line. -/
theorem cutComment_display (hhash : ∀ name ∈ r.recipients, name.toList.head? ≠ some '#') :
    cutComment false r.display.toList =
      spaced (r.recipients.map String.toList) ++ ':' :: ' ' :: r.tags.display.toList := by
  have hfront : cutComment false (spaced (r.recipients.map String.toList)) =
      spaced (r.recipients.map String.toList) := by
    apply cutComment_spaced
    rw [List.forall_mem_map]
    exact fun name hname => ⟨(h.isRecipient name hname).isWord, hhash name hname⟩
  -- A tag never has a `#` in it, so nothing is asked of the tags.
  have hback : cutComment true r.tags.display.toList = r.tags.display.toList := by
    rw [TagExpr.toList_display]
    apply cutComment_spaced
    rw [List.forall_mem_map]
    intro token htoken
    have htoken := TagExpr.isProper_of_mem_tokens h.tags token htoken
    refine ⟨TagToken.isWord_text htoken, fun hhead => ?_⟩
    exact TagToken.not_mem_text htoken (.inr rfl) (List.mem_of_head? hhead)
  rw [toList_display, cutComment_append _ hfront, cutComment_cons_of_ne (by decide),
    cutComment_cons_of_ne (by decide)]
  exact congrArg (_ ++ ':' :: ' ' :: ·) hback

/-- Without a `#` at the beginning of a recipient the line is read as it was meant. -/
theorem readRuleLine_display (hhash : ∀ name ∈ r.recipients, name.toList.head? ≠ some '#') :
    readRuleLine r.display.toList = .ok (some (r.recipients, r.tags)) := by
  obtain ⟨name, names, hrecipients⟩ := List.exists_cons_of_ne_nil h.recipients_ne_nil
  have hname : name ∈ r.recipients := by
    rw [hrecipients]
    exact List.mem_cons_self
  have hblank : ¬IsBlankLine r.display.toList := by
    rw [IsBlankLine, trim_display h, toList_display]
    simp
  have hcomment : ¬IsCommentLine r.display.toList := by
    rw [isCommentLine_display_iff h, hrecipients, List.map_cons,
      head?_spaced_cons (h.isRecipient name hname).isWord.ne_nil]
    exact hhash name hname
  have hcut := cutComment_display h hhash
  rw [← trim_display h] at hcut
  refine readRuleLine_eq_some_iff.2 ⟨hblank, hcomment, _, _, r.tags.tokens, hcut,
    colon_not_mem_spaced h.isRecipient, ?_, h.recipients_ne_nil, TagExpr.readTokens_display h.tags,
    TagExpr.ofTokens_tokens h.tags⟩
  exact readRecipients_spaced h.isRecipient

/-- A recipient that begins with a `#` makes a comment of the line, or of its end from a place
before the colon. -/
theorem not_statesRule_display {name : String} (hname : name ∈ r.recipients)
    (hhash : name.toList.head? = some '#') : ¬StatesRule r.display.toList := by
  rintro ⟨⟨kept, before, after, hkept, hcolon, _⟩, hcomment⟩
  obtain ⟨earlier, later, hrecipients⟩ := List.append_of_mem hname
  by_cases hne : earlier = []
  case pos =>
    have hword := (h.isRecipient name hname).isWord
    apply hcomment
    rw [isCommentLine_display_iff h, hrecipients, hne, List.nil_append, List.map_cons,
      head?_spaced_cons hword.ne_nil]
    exact hhash
  case neg =>
    obtain ⟨back, hdisplay⟩ := exists_toList_display_eq hrecipients hne hhash
    have hkept := isUncommented_iff.1 hkept
    rw [trim_display h] at hkept
    -- The comment begins there at the latest, and what is left of the line has no colon.
    have hlength : kept.length ≤ (spaced (earlier.map String.toList) ++ [',', ' ']).length := by
      rw [hkept, hdisplay]
      exact length_cutComment_le (by simp [blankBefore]; rfl)
    have hprefix : kept <+: r.display.toList := by
      rw [hkept]
      exact cutComment_prefix false _
    have hfront := List.prefix_of_prefix_length_le hprefix ⟨_, hdisplay.symm⟩ hlength
    have hmem : ':' ∈ spaced (earlier.map String.toList) ++ [',', ' '] :=
      hfront.subset (by rw [hcolon]; simp)
    have hearlier : ∀ name ∈ earlier, IsRecipient name := by
      intro name hname
      apply h.isRecipient
      rw [hrecipients]
      exact List.mem_append_left _ hname
    rcases List.mem_append.1 hmem with hmem | hmem
    · exact colon_not_mem_spaced hearlier hmem
    · exact absurd hmem (by decide)

end Rule

/-! ### The lines of the text -/

theorem linesOfPieces_eq_self {pieces : List (List Char)}
    (h : ∀ piece ∈ pieces, piece ≠ [] ∧ '\r' ∉ piece) : linesOfPieces pieces = pieces := by
  induction pieces with
  | nil => rfl
  | cons piece pieces ih =>
      obtain ⟨⟨hne, hreturn⟩, htail⟩ := List.forall_mem_cons.1 h
      cases pieces with
      | nil => simp [hne]
      | cons next pieces =>
          have hdrop : dropReturn piece = piece := by
            rw [dropReturn, if_neg]
            exact fun hlast => hreturn (List.mem_of_getLast? hlast)
          rw [linesOfPieces_cons_cons, ih htail, hdrop]

theorem lines_ruleText {rules : List Rule} (h : ∀ r ∈ rules, r.IsStated) :
    lines (ruleText rules).toList = rules.map fun r => r.display.toList := by
  have hnewline : "\n".toList = ['\n'] := rfl
  have hblank : ∀ r ∈ rules, ∀ c, isBlank c = true → c ≠ ' ' → c ∉ r.display.toList :=
    fun r hr c hc hspace hmem => hspace (Rule.eq_space_of_mem_display (h r hr) hmem hc)
  by_cases hrules : rules = []
  · rw [hrules]
    rfl
  · rw [ruleText, String.toList_intercalate, List.map_map, hnewline, lines,
      List.splitOn_intercalate, linesOfPieces_eq_self]
    · rfl
    · rw [List.forall_mem_map]
      intro r hr
      refine ⟨?_, hblank r hr '\r' rfl (by decide)⟩
      rw [Function.comp_apply, Rule.toList_display]
      simp
    · rw [List.forall_mem_map]
      exact fun r hr => hblank r hr '\n' rfl (by decide)
    · simpa using hrules

section

variable {rules : List Rule} (h : ∀ r ∈ rules, r.IsStated)

include h

theorem readRules_ruleText_of_no_hash
    (hhash : ∀ r ∈ rules, ∀ name ∈ r.recipients, name.toList.head? ≠ some '#') :
    readRules (ruleText rules) = .ok (renumber rules) := by
  have hentry : ∀ p ∈ rules.zipIdx 1, readNumberedLine p.1.display.toList p.2 =
      .ok (some { p.1 with line := p.2 }) := by
    rintro ⟨r, number⟩ hp
    have hr : r ∈ rules := List.fst_mem_of_mem_zipIdx hp
    have hread := Rule.readRuleLine_display (h r hr) (hhash r hr)
    exact readNumberedLine_eq_ok_iff.2 ⟨_, hread, rfl⟩
  refine readRules_eq_ok_iff.2 ⟨(renumber rules).map some, ?_, by simp⟩
  rw [lines_ruleText h, List.zipIdx_map, renumber, List.map_map, List.forall₂_map_left_iff,
    List.forall₂_map_right_iff, List.forall₂_same]
  exact hentry

theorem length_lt_of_readRules_ruleText {r : Rule} (hr : r ∈ rules) {name : String}
    (hname : name ∈ r.recipients) (hhash : name.toList.head? = some '#') {again : List Rule}
    (hagain : readRules (ruleText rules) = .ok again) : again.length < rules.length := by
  obtain ⟨entries, hentries, rfl⟩ := readRules_eq_ok_iff.1 hagain
  have hlines := congrArg List.length (map_line_filterMap_of_forall₂ hentries)
  rw [List.length_map, List.length_map, lines_ruleText h] at hlines
  have hmem : r.display.toList ∈
      ((rules.map fun r => r.display.toList).zipIdx 1).map Prod.fst := by
    rw [List.zipIdx_map_fst]
    exact List.mem_map_of_mem hr
  obtain ⟨p, hp, hdisplay⟩ := List.mem_map.1 hmem
  have hrule : ¬decide (StatesRule p.1) = true := by
    rw [hdisplay, decide_eq_true_iff]
    exact Rule.not_statesRule_display (h r hr) hname hhash
  -- The rules that come back are as many as the lines that state one.
  calc (entries.filterMap id).length
      = (((rules.map fun r => r.display.toList).zipIdx 1).filter
          fun p => StatesRule p.1).length := hlines
    _ < ((rules.map fun r => r.display.toList).zipIdx 1).length :=
        List.length_filter_lt_length_iff_exists.2 ⟨p, hp, hrule⟩
    _ = rules.length := by rw [List.length_zipIdx, List.length_map]

end

/-- Rules that were read from a file are written down and read again, each on the line of its
place, exactly if no recipient begins with a `#`. Otherwise there is a fault, or a rule is lost. -/
theorem readRules_ruleText_iff {text : String} {rules : List Rule}
    (h : readRules text = .ok rules) :
    (readRules (ruleText rules) = .ok (renumber rules) ↔
      ∀ r ∈ rules, ∀ name ∈ r.recipients, name.toList.head? ≠ some '#') ∧
    ((∃ r ∈ rules, ∃ name ∈ r.recipients, name.toList.head? = some '#') →
      (∃ fault, readRules (ruleText rules) = .error fault) ∨
        ∃ again, readRules (ruleText rules) = .ok again ∧ again.length < rules.length) := by
  have hstated := isStated_of_readRules h
  constructor
  · constructor
    · intro hagain r hr name hname hhash
      have hlt := length_lt_of_readRules_ruleText hstated hr hname hhash hagain
      rw [renumber, List.length_map, List.length_zipIdx] at hlt
      exact lt_irrefl _ hlt
    · exact readRules_ruleText_of_no_hash hstated
  · rintro ⟨r, hr, name, hname, hhash⟩
    cases hagain : readRules (ruleText rules) with
    | error fault => exact .inl ⟨fault, rfl⟩
    | ok again =>
        exact .inr ⟨again, rfl, length_lt_of_readRules_ruleText hstated hr hname hhash hagain⟩

theorem readRules_ruleText_iff_of_sample :
    readRules sampleFile = .ok sampleFileRules ∧
      readRules (ruleText sampleFileRules) ≠ .ok (renumber sampleFileRules) ∧
      ((∃ fault, readRules (ruleText sampleFileRules) = .error fault) ∨
        ∃ again, readRules (ruleText sampleFileRules) = .ok again ∧
          again.length < sampleFileRules.length) := by
  have hread : readRules sampleFile = .ok sampleFileRules := by decide +kernel
  have hhash : ∃ r ∈ sampleFileRules, ∃ name ∈ r.recipients, name.toList.head? = some '#' := by
    decide
  refine ⟨hread, fun hagain => ?_, (readRules_ruleText_iff hread).2 hhash⟩
  obtain ⟨r, hr, name, hname, hhash⟩ := hhash
  exact (readRules_ruleText_iff hread).1.1 hagain r hr name hname hhash

end ReportRouting
