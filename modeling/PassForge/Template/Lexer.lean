import PassForge.Template.Token

/-!
# Cutting templates into tokens

`lex` reads a template from its start to its end.  Every step takes at least one character, so that
the text left to read bounds the recursion.
-/

namespace PassForge.Template

theorem ne_nil_of_findMarker {indented : Bool} {cs : List Char} {r : Nat × Marker}
    (h : findMarker indented cs = some r) : cs ≠ [] := by
  rintro rfl
  simp [findMarker] at h

/-- How reading goes on after a tag: leading white space is dropped later, or one line end now, or
nothing. -/
def Trim.resume (trim : Trim) (p : Cursor) : Bool × Cursor :=
  match trim with
  | .usual => (false, p.skipNewline)
  | .remove => (true, p)
  | .keep => (false, p)

theorem Trim.length_resume_le (trim : Trim) (p : Cursor) :
    (trim.resume p).2.rest.length ≤ p.rest.length := by
  cases trim
  · exact Cursor.length_skipNewline_le p
  · exact Nat.le_refl _
  · exact Nat.le_refl _

/-- The tokens from a place on. -/
def lexFrom (mode : Mode) (p : Cursor) : Lexemes :=
  match mode with
  | .text trim =>
    let q := if trim then p.skipWhile Text.isBlank else p
    match h : findMarker q.indented q.rest with
    | none => Lexemes.done.pushText q.rest q.line
    | some (n, marker) =>
      let opening := q.advance n
      let mark :=
        if marker = .lineStatement then .usual else Trim.ofChar? (opening.rest.drop 2).head?
      let lead := trimLead (q.rest.take n) marker mark opening.fresh
      let inner := opening.advance (2 + mark.width)
      have hq : q.rest.length ≤ p.rest.length := by
        simp only [q]
        split
        · exact Cursor.length_skipWhile_le _ _
        · exact Nat.le_refl _
      have hpos : 0 < q.rest.length := List.length_pos_iff.2 (ne_nil_of_findMarker h)
      have hinner : inner.rest.length < p.rest.length := by
        simp only [inner, opening, Cursor.rest_advance, List.length_drop]
        omega
      let tail : Lexemes :=
        match marker with
        | .print => (lexFrom (.tag .print 0) inner).push .printStart opening.line
        | .statement =>
          match keywordTag? "raw" inner.rest with
          | some (length, first) =>
            let raw := inner.advance length
            match rawEnd? raw.rest with
            | none => .failed (.malformed .openRaw raw.lastLine)
            | some close =>
              let content := trimRaw first close.before (raw.rest.take close.start)
              let after := close.after.resume (raw.advance (close.start + close.length))
              have hafter : after.2.rest.length < p.rest.length := by
                refine Nat.lt_of_le_of_lt (close.after.length_resume_le _) ?_
                simp only [raw, Cursor.rest_advance, List.length_drop]
                omega
              (lexFrom (.text after.1) after.2).push (.text (String.ofList content)) raw.line
          | none => (lexFrom (.tag .statement 0) inner).push .statementStart opening.line
        | .lineStatement =>
          (lexFrom (.tag .lineStatement 0) inner).push .statementStart opening.line
        | .comment =>
          match commentLength? inner.rest with
          | none => .failed (.malformed .openComment opening.lastLine)
          | some k =>
            let close := Trim.ofChar? (inner.rest.take k).getLast?
            let after := close.resume (inner.advance (k + 2))
            have hafter : after.2.rest.length < p.rest.length := by
              refine Nat.lt_of_le_of_lt (close.length_resume_le _) ?_
              simp only [Cursor.rest_advance, List.length_drop]
              omega
            lexFrom (.text after.1) after.2
      tail.pushText lead q.line
  | .tag kind depth =>
    let q := p.skipWhile (isFiller kind depth)
    have hq : q.rest.length ≤ p.rest.length := Cursor.length_skipWhile_le _ _
    match h : q.rest with
    | [] => if kind = .lineStatement then Lexemes.done.push .statementEnd q.line else .done
    | c :: cs =>
      match tagEnd? kind depth q.rest with
      | some (more, trim) =>
        let after := trim.resume (q.advance (more + 1))
        have hafter : after.2.rest.length < p.rest.length := by
          refine Nat.lt_of_le_of_lt (trim.length_resume_le _) ?_
          rw [Cursor.rest_advance, h, List.drop_succ_cons, List.length_drop]
          rw [h, List.length_cons] at hq
          omega
        (lexFrom (.text after.1) after.2).push kind.endToken q.line
      | none =>
        match scanToken q.line c cs with
        | .error fault => .failed fault
        | .ok scanned =>
          have hnext : (q.advance (scanned.more + 1)).rest.length < p.rest.length := by
            rw [Cursor.rest_advance, h, List.drop_succ_cons, List.length_drop]
            rw [h, List.length_cons] at hq
            omega
          (lexFrom (.tag kind (bracketDepth depth scanned.token))
            (q.advance (scanned.more + 1))).push scanned.token q.line
termination_by p.rest.length
decreasing_by all_goals assumption

/-- The tokens of a template. -/
def lex (text : String) : Lexemes := lexFrom (.text false) (.start text.toList)

end PassForge.Template
