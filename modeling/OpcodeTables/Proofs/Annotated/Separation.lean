import OpcodeTables.Proofs.Annotated.Leftmost
import OpcodeTables.Proofs.Catalogue.Addition
import OpcodeTables.Proofs.Text.Utf8

/-!
# Scanning one part after the other

Where no occurrence reaches from the front of a text into the rest, the text is
scanned as if its parts were scanned one after the other.  The longest name is the
only thing that looks ahead, and it stays within the occurrences of its own part.

The end of a function, a closing brace on a line of its own, keeps any two parts
apart: an occurrence may hold a brace, in its name or its handler, but never behind
a newline, and it ends in a parenthesis.
-/

namespace OpcodeTables

namespace Annotated

open Text

/-! ## Parts that no occurrence joins -/

/-- No occurrence that starts in front goes on behind. -/
def Apart (front behind : List Char) : Prop :=
  ∀ tail, tail <:+ front → ∀ occurrence : Occurrence,
    occurrence.chars <+: tail ++ behind → occurrence.chars <+: tail

variable {front behind : List Char}

theorem Apart.of_cons {c : Char} (hapart : Apart (c :: front) behind) : Apart front behind :=
  fun tail htail => hapart tail (htail.trans (List.suffix_cons c front))

theorem Apart.of_append {first : List Char} (hapart : Apart (first ++ front) behind) :
    Apart front behind :=
  fun tail htail => hapart tail (htail.trans (List.suffix_append first front))

theorem Apart.atHead?_eq_none (hapart : Apart front behind) (hread : atHead? front = none) :
    atHead? (front ++ behind) = none := by
  cases hwhole : atHead? (front ++ behind) with
  | none => rfl
  | some read =>
      obtain ⟨occurrence, htext, -, -⟩ := atHead?_eq_some hwhole
      have hstands := hapart front List.suffix_rfl occurrence ⟨read.2, htext.symm⟩
      exact absurd hstands (Annotated.atHead?_eq_none hread occurrence)

theorem Apart.atHead?_eq_some (hapart : Apart front behind) {found : Annotated}
    {rest : List Char} (hread : atHead? front = some (found, rest)) :
    atHead? (front ++ behind) = some (found, rest ++ behind) := by
  obtain ⟨occurrence, rfl, rfl, hlongest⟩ := Annotated.atHead?_eq_some hread
  have hstands : occurrence.chars <+: occurrence.chars ++ rest ++ behind := by
    rw [List.append_assoc]
    exact List.prefix_append _ _
  cases hwhole : atHead? (occurrence.chars ++ rest ++ behind) with
  | none => exact absurd hstands (Annotated.atHead?_eq_none hwhole occurrence)
  | some read =>
      obtain ⟨found, after⟩ := read
      obtain ⟨other, htext, rfl, hlonger⟩ := Annotated.atHead?_eq_some hwhole
      have hother : other.chars <+: occurrence.chars ++ rest :=
        hapart _ List.suffix_rfl other ⟨after, htext.symm⟩
      have hsame : other = occurrence :=
        Occurrence.eq_of_length_name hother (List.prefix_append _ _)
          (Nat.le_antisymm (hlongest other hother) (hlonger occurrence hstands))
      subst hsame
      rw [List.append_assoc] at htext
      rw [List.append_cancel_left htext]

/-- Texts that no occurrence connects are scanned one by one. -/
theorem Apart.scanChars_append (hapart : Apart front behind) :
    scanChars (front ++ behind) = scanChars front ++ scanChars behind := by
  induction hlength : front.length using Nat.strong_induction_on generalizing front with
  | h length ih =>
    cases hread : atHead? front with
    | some read =>
        obtain ⟨found, rest⟩ := read
        obtain ⟨occurrence, rfl, -, -⟩ := Annotated.atHead?_eq_some hread
        have hshorter := length_lt_of_atHead? hread
        rw [scanChars_of_atHead? hread, scanChars_of_atHead? (hapart.atHead?_eq_some hread),
          ih _ (hlength ▸ hshorter) hapart.of_append rfl]
        rfl
    | none =>
        cases front with
        | nil => rw [scanChars_nil, List.nil_append, List.nil_append]
        | cons c rest =>
            have hwhole : atHead? (c :: (rest ++ behind)) = none := hapart.atHead?_eq_none hread
            rw [List.cons_append, scanChars_cons_of_atHead? hread,
              scanChars_cons_of_atHead? hwhole,
              ih _ (hlength ▸ Nat.lt_succ_self rest.length) hapart.of_cons rfl]

theorem scanChars_cons_of_ne_slash {c : Char} (hc : c ≠ '/') (text : List Char) :
    scanChars (c :: text) = scanChars text := by
  apply scanChars_cons_of_atHead?
  cases hread : atHead? (c :: text) with
  | none => rfl
  | some read =>
      obtain ⟨occurrence, htext, -, -⟩ := atHead?_eq_some hread
      exact absurd (List.cons.inj htext).1 hc

/-! ## A brace on its own line -/

/-- No brace stands right behind a newline. -/
def BraceFree (text : List Char) : Prop :=
  text.IsChain fun c next => ¬ (c = '\n' ∧ next = '}')

theorem braceFree_of_newline_notMem {text : List Char} (hline : '\n' ∉ text) :
    BraceFree text := by
  induction text with
  | nil => exact List.isChain_nil
  | cons c text ih =>
      rw [List.mem_cons, not_or] at hline
      exact List.isChain_cons.mpr ⟨fun next _ hpair => hline.1 hpair.1.symm, ih hline.2⟩

theorem braceFree_of_brace_notMem {text : List Char} (hbrace : '}' ∉ text) :
    BraceFree text := by
  induction text with
  | nil => exact List.isChain_nil
  | cons c text ih =>
      rw [List.mem_cons, not_or] at hbrace
      refine List.isChain_cons.mpr ⟨fun next hnext hpair => ?_, ih hbrace.2⟩
      exact hbrace.2 (hpair.2 ▸ List.mem_of_mem_head? hnext)

/-- A brace may stand in a piece without newlines, but not at its beginning. -/
theorem BraceFree.append {first line rest : List Char} {c : Char} (hfirst : '}' ∉ first)
    (hc : c ≠ '}') (hline : '\n' ∉ c :: line) (hrest : BraceFree rest) :
    BraceFree (first ++ (c :: line ++ rest)) := by
  refine List.isChain_append.mpr ⟨braceFree_of_brace_notMem hfirst, ?_, ?_⟩
  · refine List.isChain_append.mpr ⟨braceFree_of_newline_notMem hline, hrest, ?_⟩
    intro last hlast next _ hpair
    exact hline (hpair.1 ▸ List.mem_of_mem_getLast? hlast)
  · intro last _ next hnext hpair
    exact hc (Option.some.inj hnext ▸ hpair.2)

theorem notMem_of_blank {c : Char} {text : List Char} (hc : isBlank c = false)
    (hblank : ∀ c ∈ text, isBlank c = true) : c ∉ text := by
  intro hmem
  rw [hblank c hmem] at hc
  contradiction

/-- A character that no piece between the name and the handler can hold. -/
def IsForeign (c : Char) : Prop :=
  isBlank c = false ∧ c.isDigit = false ∧ (∀ digit : Nibble, c ≠ digit.upper) ∧
    c ∉ extendedMarker.toList ∧ c ∉ "pub fn".toList

instance (c : Char) : Decidable (IsForeign c) :=
  inferInstanceAs (Decidable (_ ∧ _))

theorem IsForeign.notMem_designator {c : Char} (hc : IsForeign c) (designator : Designator) :
    c ∉ designator.chars := by
  obtain ⟨hblank, -, hupper, hmarker, -⟩ := hc
  cases designator with
  | plain high low => simp [Designator.chars, hupper]
  | marked high low =>
      have hspace : c ≠ ' ' := by
        rintro rfl
        contradiction
      simp [Designator.chars, hupper, hmarker, hspace]

theorem newline_notMem_handler (declaration : Declaration) : '\n' ∉ declaration.handler := by
  intro hmem
  exact absurd (declaration.handler_chars '\n' hmem).2 (by decide)

namespace Occurrence

variable (occurrence : Occurrence)

/-- What stands between the name and the handler. -/
def middle : List Char :=
  occurrence.closing :: (occurrence.designator.chars ++
    occurrence.declaration.separator :: (occurrence.declaration.cycles ++
      (occurrence.declaration.gap ++ "pub fn".toList)))

/-- The name and the handler are the pieces that may hold a brace. -/
theorem chars_eq_pieces :
    occurrence.chars = ['/', '/', occurrence.opening] ++ ('\'' :: (occurrence.name ++ ['\'']) ++
      (occurrence.middle ++ (' ' :: occurrence.declaration.handler ++
        (occurrence.declaration.padding ++ ['('])))) := by
  have hword : "pub fn ".toList = "pub fn".toList ++ [' '] := rfl
  simp [chars, middle, Declaration.chars, hword]

theorem notMem_middle {c : Char} (hc : IsForeign c) : c ∉ occurrence.middle := by
  have hdesignator := hc.notMem_designator occurrence.designator
  obtain ⟨hblank, hdigit, -, -, hword⟩ := hc
  have hne : ∀ {other : Char}, isBlank other = true → c ≠ other := by
    rintro other hother rfl
    rw [hother] at hblank
    contradiction
  have hcycles : c ∉ occurrence.declaration.cycles := by
    intro hmem
    rw [occurrence.declaration.cycles_digits c hmem] at hdigit
    contradiction
  simp only [middle, List.mem_cons, List.mem_append, not_or]
  exact ⟨hne occurrence.closing_blank, hdesignator, hne occurrence.declaration.separator_blank,
    hcycles, notMem_of_blank hblank occurrence.declaration.gap_blank, hword⟩

/-- No occurrence holds a brace at the beginning of a line. -/
theorem braceFree_chars : BraceFree occurrence.chars := by
  have hopening : '}' ∉ ['/', '/', occurrence.opening] := by
    have hne : '}' ∉ [occurrence.opening] :=
      notMem_of_blank (by decide) (by simpa using occurrence.opening_blank)
    simpa using hne
  have hname : '\n' ∉ '\'' :: (occurrence.name ++ ['\'']) := by
    simpa using occurrence.name_inLine
  have hhandler : '\n' ∉ ' ' :: occurrence.declaration.handler := by
    simpa using newline_notMem_handler occurrence.declaration
  have hend : BraceFree (occurrence.declaration.padding ++ ['(']) := by
    apply braceFree_of_brace_notMem
    simpa using notMem_of_blank (by decide) occurrence.declaration.padding_blank
  rw [chars_eq_pieces]
  exact .append hopening (by decide) hname
    (.append (occurrence.notMem_middle (by decide)) (by decide) hhandler hend)

theorem getLast?_chars : occurrence.chars.getLast? = some '(' := by
  rw [chars_eq_pieces]
  simp only [← List.append_assoc, ← List.cons_append, List.getLast?_concat]

end Occurrence

/-- An occurrence ends in front of a brace that begins a line. -/
theorem apart_brace (front behind : List Char) : Apart front ('\n' :: '}' :: behind) := by
  rintro tail - occurrence ⟨after, htext⟩
  rcases List.append_eq_append_iff.mp htext with ⟨more, htail, -⟩ | ⟨reached, hchars, hbehind⟩
  · exact ⟨more, htail.symm⟩
  · have hlast := occurrence.getLast?_chars
    have hfree := occurrence.braceFree_chars
    rw [hchars] at hlast hfree
    match reached, hbehind with
    | [], _ => exact ⟨[], by rw [hchars, List.append_nil, List.append_nil]⟩
    | [c], hbehind =>
        -- the newline would be the end of the occurrence
        obtain ⟨rfl, -⟩ := List.cons.inj hbehind
        simp at hlast
    | c :: next :: reached, hbehind =>
        simp only [List.cons_append, List.cons.injEq] at hbehind
        obtain ⟨rfl, rfl, -⟩ := hbehind
        exact absurd ⟨rfl, rfl⟩ (List.isChain_append_cons_cons.mp hfree).2.1

theorem scanChars_brace (front behind : List Char) :
    scanChars (front ++ '\n' :: '}' :: '\n' :: behind) = scanChars front ++ scanChars behind := by
  rw [(apart_brace front ('\n' :: behind)).scanChars_append,
    scanChars_cons_of_ne_slash (by decide), scanChars_cons_of_ne_slash (by decide),
    scanChars_cons_of_ne_slash (by decide)]

theorem decodeChars_brace (front behind : List UInt8) :
    Utf8.decodeChars (front ++ 0x0A :: 0x7D :: 0x0A :: behind) =
      Utf8.decodeChars front ++ '\n' :: '}' :: '\n' :: Utf8.decodeChars behind := by
  rw [Utf8.decodeChars_append_cons (by decide), Utf8.decodeChars_one _ (by decide),
    Utf8.decodeChars_one _ (by decide), Utf8.decodeChars_one _ (by decide)]
  rfl

/-- The end of a function divides bytes into two parts that are decoded and scanned one
by one. -/
theorem scan_decode_brace (front behind : List UInt8) :
    scan (Utf8.decode (front ++ 0x0A :: 0x7D :: 0x0A :: behind)) =
      scan (Utf8.decode front) ++ scan (Utf8.decode behind) := by
  simp only [scan, Utf8.toList_decode]
  rw [decodeChars_brace, scanChars_brace]

end Annotated

namespace Catalogue

theorem addAll_append (catalogue : Catalogue) (source : String) (found later : List Annotated) :
    catalogue.addAll source (found ++ later) =
      (catalogue.addAll source found).addAll source later :=
  List.foldl_append

/-- To scan the bytes of two pieces with the end of a function between them is to scan
one piece after the other. -/
theorem addText_function_end (catalogue : Catalogue) (front behind : List UInt8)
    (source : String) :
    let whole := Utf8.decode (front ++ 0x0A :: 0x7D :: 0x0A :: behind)
    catalogue.addText whole source =
        (catalogue.addText (Utf8.decode front) source).addText (Utf8.decode behind) source ∧
      Annotated.scan whole =
        Annotated.scan (Utf8.decode front) ++ Annotated.scan (Utf8.decode behind) ∧
      (Annotated.scan whole).length =
        (Annotated.scan (Utf8.decode front)).length +
          (Annotated.scan (Utf8.decode behind)).length := by
  intro whole
  have hscan : Annotated.scan whole =
      Annotated.scan (Utf8.decode front) ++ Annotated.scan (Utf8.decode behind) :=
    Annotated.scan_decode_brace front behind
  refine ⟨?_, hscan, ?_⟩
  · rw [addText, addText, addText, hscan, addAll_append]
  · rw [hscan, List.length_append]

end Catalogue

end OpcodeTables
