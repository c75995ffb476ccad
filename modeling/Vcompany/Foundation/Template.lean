import Vcompany.Foundation.PyValue

/-! # Replacement templates

The texts by which Python's `re` replaces the match of a pattern without groups. A template is
read part by part, and each part stands for a text or for the match. A template that is a
prefix of what it expands to is literal (`literal_of_prefix_expand`), and one that expands to a
longer text names the match.
-/

namespace Vcompany.Foundation

/-- A part of a template, as it is written, and what it stands for: none for the match. -/
structure TemplatePart where
  source : Text
  image : Option Text
  deriving DecidableEq

namespace Template

/-- `c in OCTDIGITS`. -/
def isOctal (c : Char) : Bool := 48 ≤ c.toNat && c.toNat ≤ 55

/-- `int(digits, 8)`. -/
def octalValue (digits : Text) : ℕ :=
  digits.foldl (fun value digit => 8 * value + (digit.toNat - 48)) 0

/-- The characters that stand for another behind a backslash. -/
def escapes : List (Char × Char) :=
  [('a', '\x07'), ('b', '\x08'), ('f', '\x0c'), ('n', '\n'), ('r', '\r'), ('t', '\t'),
    ('v', '\x0b'), ('\\', '\\')]

/-- The rest of a reference to a group, of which there is only the match itself. -/
def groupReference : Text → Except PyExc TemplatePart
  | '<' :: rest =>
      let name := rest.takeWhile (· ≠ '>')
      if '>' ∈ rest ∧ name ≠ [] ∧ name.all (· = '0') then
        .ok ⟨"\\g<".toList ++ name ++ ['>'], none⟩
      else .error .other
  | _ => .error .other

/-- The part that starts with a backslash and the character `c`. -/
def escaped (c : Char) (rest : Text) : Except PyExc TemplatePart :=
  if c = 'g' then groupReference rest
  else if c = '0' then
    let digits := (rest.take 2).takeWhile isOctal
    .ok ⟨'\\' :: '0' :: digits, some [Char.ofNat (octalValue digits)]⟩
  else if c.isDigit then
    match rest with
    | second :: third :: _ =>
        -- another number is that of a group
        if isOctal c ∧ isOctal second ∧ isOctal third ∧ octalValue [c, second, third] ≤ 255 then
          .ok ⟨['\\', c, second, third], some [Char.ofNat (octalValue [c, second, third])]⟩
        else .error .other
    | _ => .error .other
  else
    match escapes.lookup c with
    | some image => .ok ⟨['\\', c], some [image]⟩
    | none => if c.isAlpha then .error .other else .ok ⟨['\\', c], some ['\\', c]⟩

/-- The first part of a template. -/
def part (c : Char) (rest : Text) : Except PyExc TemplatePart :=
  if c = '\\' then
    match rest with
    | [] => .error .other
    | d :: rest => escaped d rest
  else .ok ⟨[c], some [c]⟩

/-- The parts of the template left after as many characters. -/
def parseFrom : ℕ → Text → Except PyExc (List TemplatePart)
  | _, [] => .ok []
  | skip + 1, _ :: rest => parseFrom skip rest
  | 0, c :: rest => do
      let first ← part c rest
      let others ← parseFrom (first.source.length - 1) rest
      return first :: others

/-- `parse_template`. -/
def parse (template : Text) : Except PyExc (List TemplatePart) := parseFrom 0 template

/-- The text that replaces a match. -/
def expand (parts : List TemplatePart) (found : Text) : Text :=
  parts.flatMap fun part => part.image.getD found

/-! ## Parts -/

/-- A character that keeps its backslash. -/
def Kept (c : Char) : Prop := c.isAlpha = false ∧ c.isDigit = false ∧ c ≠ '\\'

/-- A character of the parts that may stand for a backslash or an octal digit. -/
def Digital (c : Char) : Prop := c = '\\' ∨ isOctal c = true

instance : DecidablePred Kept := fun _ => inferInstanceAs (Decidable (_ ∧ _))

instance : DecidablePred Digital := fun _ => inferInstanceAs (Decidable (_ ∨ _))

theorem not_digital_of_kept {c : Char} (keeps : Kept c) : ¬ Digital c := by
  rintro (slash | octal)
  · exact keeps.2.2 slash
  · have digit : c.isDigit = true := by
      unfold isOctal at octal
      simp only [Bool.and_eq_true, decide_eq_true_eq] at octal
      exact (Bool.and_eq_true _ _).mpr ⟨decide_eq_true (UInt32.le_iff_toNat_le.mpr octal.1),
        decide_eq_true (UInt32.le_iff_toNat_le.mpr (octal.2.trans (by decide)))⟩
    rw [keeps.2.1] at digit
    cases digit

/-- Each backslash is followed by a character that keeps it. -/
def Literal : Text → Prop
  | [] => True
  | c :: rest => (c = '\\' → ∃ d ∈ rest.head?, Kept d) ∧ Literal rest

/-- What a part can be: a character, a backslash that is kept, an escape that stands for one
character, or the match. -/
inductive Reads : TemplatePart → Prop where
  | plain {c : Char} (solid : c ≠ '\\') : Reads ⟨[c], some [c]⟩
  | kept {c : Char} (keeps : Kept c) : Reads ⟨['\\', c], some ['\\', c]⟩
  | escape {digits : Text} {image : Char} (inhabited : digits ≠ [])
      (digital : Digital image → ∀ d ∈ digits, Digital d)
      (bare : ∀ d ∈ digits.head?, ¬ Kept d) : Reads ⟨'\\' :: digits, some [image]⟩
  | whole (name : Text) : Reads ⟨'\\' :: 'g' :: name, none⟩

theorem Reads.source_ne_nil {part : TemplatePart} (reads : Reads part) : part.source ≠ [] := by
  cases reads <;> exact List.cons_ne_nil _ _

private theorem concat_prefix_of_mem {c : Char} {text : Text} (member : c ∈ text) :
    text.takeWhile (· ≠ c) ++ [c] <+: text := by
  induction text with
  | nil => cases member
  | cons d text ih =>
      by_cases same : d = c
      · subst same
        rw [List.takeWhile_cons_of_neg (by simp)]
        exact List.cons_prefix_cons.mpr ⟨rfl, List.nil_prefix⟩
      · rw [List.takeWhile_cons_of_pos (by simpa using same)]
        have later := (List.mem_cons.mp member).resolve_left (Ne.symm same)
        exact List.cons_prefix_cons.mpr ⟨rfl, ih later⟩

private theorem groupReference_reads {rest : Text} {found : TemplatePart}
    (read : groupReference rest = .ok found) :
    Reads found ∧ found.source <+: '\\' :: 'g' :: rest := by
  unfold groupReference at read
  split at read
  · next rest =>
      dsimp only at read
      split at read
      · next valid =>
          cases read
          refine ⟨.whole ('<' :: rest.takeWhile (· ≠ '>') ++ ['>']), ?_⟩
          exact (List.prefix_append_right_inj "\\g<".toList).mpr
            (concat_prefix_of_mem valid.1)
      · cases read
  · cases read

private theorem escapes_spec :
    ∀ pair ∈ escapes, (Digital pair.2 → Digital pair.1) ∧ ¬ Kept pair.1 := by
  decide

private theorem escaped_reads {c : Char} {rest : Text} {found : TemplatePart}
    (read : escaped c rest = .ok found) : Reads found ∧ found.source <+: '\\' :: c :: rest := by
  unfold escaped at read
  split at read
  · next letter =>
      subst letter
      exact groupReference_reads read
  · split at read
    · next zero =>
        subst zero
        cases read
        refine ⟨.escape (List.cons_ne_nil _ _) ?_ ?_, ?_⟩
        · intro _ d member
          rcases List.mem_cons.mp member with rfl | later
          · exact .inr (by decide)
          · exact .inr (List.mem_takeWhile_imp later)
        · rintro d ⟨⟩ ⟨-, digit, -⟩
          cases digit
        · have sub : (rest.take 2).takeWhile isOctal <+: rest :=
            (List.takeWhile_prefix _).trans (List.take_prefix 2 rest)
          exact List.cons_prefix_cons.mpr ⟨rfl, List.cons_prefix_cons.mpr ⟨rfl, sub⟩⟩
    · split at read
      · next digit =>
          split at read
          · next second third later =>
              split at read
              · next octal =>
                  cases read
                  refine ⟨.escape (List.cons_ne_nil _ _) ?_ ?_, ⟨later, rfl⟩⟩
                  · intro _ d member
                    rcases List.mem_cons.mp member with rfl | member
                    · exact .inr octal.1
                    · rcases List.mem_cons.mp member with rfl | member
                      · exact .inr octal.2.1
                      · exact .inr (List.mem_singleton.mp member ▸ octal.2.2.1)
                  · rintro d ⟨⟩ ⟨-, plain, -⟩
                    rw [digit] at plain
                    cases plain
              · cases read
          · cases read
      · next nonzero digit =>
          split at read
          · next image simple =>
              cases read
              obtain ⟨before, after, listed, -⟩ := List.lookup_eq_some_iff.mp simple
              obtain ⟨digital, bare⟩ := escapes_spec (c, image)
                (listed ▸ List.mem_append_right _ List.mem_cons_self)
              refine ⟨.escape (List.cons_ne_nil _ _) ?_ ?_, ⟨rest, rfl⟩⟩
              · exact fun own d member => List.mem_singleton.mp member ▸ digital own
              · rintro d ⟨⟩
                exact bare
          · next bare =>
              split at read
              · cases read
              · next letter =>
                  cases read
                  refine ⟨.kept ⟨?_, ?_, ?_⟩, ⟨rest, rfl⟩⟩
                  · exact Bool.eq_false_iff.mpr letter
                  · exact Bool.eq_false_iff.mpr digit
                  · rintro rfl
                    cases bare

theorem part_reads {c : Char} {rest : Text} {found : TemplatePart}
    (read : part c rest = .ok found) : Reads found ∧ found.source <+: c :: rest := by
  unfold part at read
  split at read
  · next slash =>
      subst slash
      split at read
      · cases read
      · exact escaped_reads read
  · next solid =>
      cases read
      exact ⟨.plain solid, ⟨rest, rfl⟩⟩

/-! ## Templates -/

theorem parse_reads {template : Text} {parts : List TemplatePart}
    (read : parse template = .ok parts) :
    (∀ part ∈ parts, Reads part) ∧ parts.flatMap TemplatePart.source = template := by
  have from_skip (text : Text) : ∀ {skip : ℕ} {parts : List TemplatePart},
      parseFrom skip text = .ok parts →
        (∀ part ∈ parts, Reads part) ∧ parts.flatMap TemplatePart.source = text.drop skip := by
    induction text with
    | nil =>
        intro skip parts read
        rw [parseFrom] at read
        cases read
        exact ⟨nofun, List.drop_nil.symm⟩
    | cons c rest ih =>
        intro skip parts read
        cases skip with
        | succ skip =>
            rw [parseFrom] at read
            exact ih read
        | zero =>
            rw [parseFrom] at read
            obtain ⟨first, isFirst, read⟩ := PyExc.bind_eq_ok_iff.mp read
            obtain ⟨others, areOthers, read⟩ := PyExc.bind_eq_ok_iff.mp read
            cases read
            obtain ⟨reads, ⟨tail, whole⟩⟩ := part_reads isFirst
            obtain ⟨later, sources⟩ := ih areOthers
            refine ⟨List.forall_mem_cons.mpr ⟨reads, later⟩, ?_⟩
            rw [List.flatMap_cons, sources, List.drop_zero, ← whole]
            obtain ⟨d, more, source⟩ := List.exists_cons_of_ne_nil reads.source_ne_nil
            rw [source, List.cons_append] at whole
            obtain ⟨-, same⟩ := List.cons.inj whole
            rw [source, ← same, List.length_cons, Nat.add_sub_cancel, List.drop_left]
  exact from_skip template read

@[simp] theorem expand_cons (part : TemplatePart) (parts : List TemplatePart) (found : Text) :
    expand (part :: parts) found = part.image.getD found ++ expand parts found := rfl

theorem escaped_of_kept {c : Char} (keeps : Kept c) (rest : Text) :
    escaped c rest = .ok ⟨['\\', c], some ['\\', c]⟩ := by
  obtain ⟨letter, digit, slash⟩ := keeps
  have simple : escapes.lookup c = none := by
    rw [List.lookup_eq_none_iff]
    have listed : ∀ pair ∈ escapes, pair.1.isAlpha = true ∨ pair.1 = '\\' := by decide
    intro pair member
    rw [bne_iff_ne]
    rintro rfl
    rcases listed pair member with alpha | same
    · rw [letter] at alpha
      cases alpha
    · exact slash same
  unfold escaped
  rw [if_neg, if_neg, if_neg, simple]
  · exact if_neg (by rw [letter]; exact Bool.false_ne_true)
  · rw [digit]
    exact Bool.false_ne_true
  · rintro rfl
    cases digit
  · rintro rfl
    cases letter

/-- A template without backslashes is literal. -/
theorem literal_of_lacks {template : Text} (lacks : '\\' ∉ template) : Literal template := by
  induction template with
  | nil => trivial
  | cons c rest ih =>
      obtain ⟨other, later⟩ := not_or.mp (mt List.mem_cons.mpr lacks)
      exact ⟨fun slash => absurd slash.symm other, ih later⟩

/-- A literal template stands for itself. -/
theorem parse_of_literal : ∀ {template : Text}, Literal template →
    ∃ parts, parse template = .ok parts ∧ ∀ found, expand parts found = template
  | [], _ => ⟨[], rfl, fun _ => rfl⟩
  | c :: rest, ⟨keeps, later⟩ => by
      by_cases slash : c = '\\'
      · obtain ⟨d, head, kept⟩ := keeps slash
        cases rest with
        | nil => cases head
        | cons e rest =>
            cases head
            obtain ⟨parts, read, same⟩ := parse_of_literal later.2
            refine ⟨⟨['\\', d], some ['\\', d]⟩ :: parts, ?_, fun found => ?_⟩
            · unfold parse at read ⊢
              have first : part c (d :: rest) = .ok ⟨['\\', d], some ['\\', d]⟩ := by
                unfold part
                rw [if_pos slash]
                exact escaped_of_kept kept rest
              rw [parseFrom, first, PyExc.ok_bind]
              change parseFrom 0 rest >>= _ = _
              rw [read]
              rfl
            · rw [expand_cons, same, slash]
              rfl
      · obtain ⟨parts, read, same⟩ := parse_of_literal later
        refine ⟨⟨[c], some [c]⟩ :: parts, ?_, fun found => ?_⟩
        · unfold parse at read ⊢
          have first : part c rest = .ok ⟨[c], some [c]⟩ := if_neg slash
          rw [parseFrom, first, PyExc.ok_bind]
          change parseFrom 0 rest >>= _ = _
          rw [read]
          rfl
        · rw [expand_cons, same]
          rfl

section

variable {parts : List TemplatePart} {found : Text}

/-- What is left over of an escape is never made up for. -/
private theorem not_prefix_of_pending (reads : ∀ part ∈ parts, Reads part)
    (starts : ∃ c ∈ found.head?, ¬ Digital c) {queue : Text} (inhabited : queue ≠ [])
    (digital : ∀ d ∈ queue, Digital d) :
    ¬ queue ++ parts.flatMap TemplatePart.source <+: expand parts found := by
  induction parts generalizing queue with
  | nil =>
      intro start
      rw [List.flatMap_nil, List.append_nil] at start
      exact inhabited (List.prefix_nil.mp start)
  | cons part parts ih =>
      obtain ⟨first, later⟩ := List.forall_mem_cons.mp reads
      obtain ⟨d, queue, rfl⟩ := List.exists_cons_of_ne_nil inhabited
      obtain ⟨own, others⟩ := List.forall_mem_cons.mp digital
      -- the queue goes on with the source of a part that stands for one digital character
      have rotate {source : Text} (more : source ≠ []) (sound : ∀ e ∈ source, Digital e)
          (start : queue ++ (source ++ parts.flatMap TemplatePart.source) <+:
            expand parts found) : False := by
        rw [← List.append_assoc] at start
        refine ih later ?_ ?_ start
        · exact fun none => more (List.append_eq_nil_iff.mp none).2
        · intro e member
          rcases List.mem_append.mp member with old | new
          · exact others e old
          · exact sound e new
      intro start
      rw [List.flatMap_cons, expand_cons, List.cons_append] at start
      cases first with
      | plain =>
          obtain ⟨rfl, rest⟩ := List.cons_prefix_cons.mp start
          exact rotate (List.cons_ne_nil _ _) (fun e member => List.mem_singleton.mp member ▸ own)
            rest
      | kept keeps =>
          have rest := (List.cons_prefix_cons.mp start).2
          cases queue with
          | nil => exact keeps.2.2 (List.cons_prefix_cons.mp rest).1.symm
          | cons e queue =>
              have same := (List.cons_prefix_cons.mp rest).1
              exact not_digital_of_kept keeps (same ▸ others e List.mem_cons_self)
      | escape more sound =>
          obtain ⟨rfl, rest⟩ := List.cons_prefix_cons.mp start
          refine rotate (List.cons_ne_nil _ _) ?_ rest
          exact List.forall_mem_cons.mpr ⟨.inl rfl, sound own⟩
      | whole =>
          obtain ⟨c, head, other⟩ := starts
          cases found with
          | nil => cases head
          | cons e found =>
              cases head
              exact other ((List.cons_prefix_cons.mp start).1 ▸ own)

/-- A template that starts what it expands to is literal, if the match starts otherwise than an
escape can expand. -/
theorem literal_of_prefix_expand (reads : ∀ part ∈ parts, Reads part)
    (starts : ∃ c ∈ found.head?, ¬ Digital c)
    (start : parts.flatMap TemplatePart.source <+: expand parts found) :
    Literal (parts.flatMap TemplatePart.source) := by
  induction parts with
  | nil => trivial
  | cons part parts ih =>
      obtain ⟨first, later⟩ := List.forall_mem_cons.mp reads
      rw [List.flatMap_cons, expand_cons] at start
      rw [List.flatMap_cons]
      cases first with
      | plain solid =>
          exact ⟨fun slash => absurd slash solid, ih later (List.cons_prefix_cons.mp start).2⟩
      | kept keeps =>
          have rest := (List.cons_prefix_cons.mp (List.cons_prefix_cons.mp start).2).2
          exact ⟨fun _ => ⟨_, rfl, keeps⟩, fun slash => absurd slash keeps.2.2, ih later rest⟩
      | escape more sound =>
          obtain ⟨rfl, rest⟩ := List.cons_prefix_cons.mp start
          exact absurd rest (not_prefix_of_pending later starts more (sound (.inl rfl)))
      | whole =>
          obtain ⟨c, head, other⟩ := starts
          cases found with
          | nil => cases head
          | cons e found =>
              cases head
              exact absurd (.inl (List.cons_prefix_cons.mp start).1.symm) other

/-- Without the match, no template expands to a longer text. -/
theorem length_expand_le (reads : ∀ part ∈ parts, Reads part)
    (named : ∀ part ∈ parts, part.image ≠ none) :
    (expand parts found).length ≤ (parts.flatMap TemplatePart.source).length := by
  induction parts with
  | nil => exact le_rfl
  | cons part parts ih =>
      obtain ⟨first, later⟩ := List.forall_mem_cons.mp reads
      obtain ⟨own, others⟩ := List.forall_mem_cons.mp named
      rw [List.flatMap_cons, expand_cons, List.length_append, List.length_append]
      refine Nat.add_le_add ?_ (ih later others)
      cases first with
      | plain | kept => exact le_rfl
      | escape => exact Nat.succ_le_succ (Nat.zero_le _)
      | whole => exact absurd rfl own

/-- A template that expands to a longer text names the match. -/
theorem exists_expand_of_longer (reads : ∀ part ∈ parts, Reads part)
    (longer : (parts.flatMap TemplatePart.source).length < (expand parts found).length) :
    ∃ before after, expand parts found = before ++ found ++ after := by
  by_contra none
  refine absurd (length_expand_le reads fun part member whole => none ?_) (Nat.not_le.mpr longer)
  obtain ⟨first, last, rfl⟩ := List.append_of_mem member
  refine ⟨expand first found, expand last found, ?_⟩
  unfold expand
  rw [List.flatMap_append, List.flatMap_cons, whole, List.append_assoc]
  rfl

end

end Template

end Vcompany.Foundation
