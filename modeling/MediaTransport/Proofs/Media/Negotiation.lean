import MediaTransport.Media.Session
import Mathlib.Data.List.Basic
import Mathlib.Data.List.Induction

/-!
# Negotiating again and again

A session may hear of the stream any number of times, each time with other formats, and
be changed in other ways in between. What it has agreed on then follows from its first
formats and the answers that fitted, and from nothing else: it is the last of these
answers, without what an earlier one or the first formats leave out
(`Format.agreed`). Answers that do not fit leave no trace.

The one special case is a session without formats, which takes what it is given. It can
only arise before the first answer that fits, because nothing is agreed on by an empty
list; so a list that is not empty narrows from then on.
-/

namespace MediaTransport.Media

/-! ## Lists of formats -/

namespace Format

/-- A format that neither the offer nor an answer leaves out. An empty offer leaves out
none. -/
def IsAllowed (offered : List String) (answers : List (List String)) (format : String) : Prop :=
  (offered = [] ∨ format ∈ offered) ∧ ∀ answered ∈ answers, format ∈ answered

instance (offered : List String) (answers : List (List String)) :
    DecidablePred (IsAllowed offered answers) :=
  fun _ => inferInstanceAs (Decidable (_ ∧ _))

/-- What is left of an offer after some answers that fitted. -/
def agreed (offered : List String) (answers : List (List String)) : List String :=
  match answers.getLast? with
  | none => offered
  | some last => last.filter (IsAllowed offered answers.dropLast)

variable {offered answered formats : List String} {answers : List (List String)}

theorem agreed_append_singleton (offered : List String) (answers : List (List String))
    (last : List String) :
    agreed offered (answers ++ [last]) = last.filter (IsAllowed offered answers) := by
  rw [agreed, List.getLast?_concat, List.dropLast_concat]

theorem mem_agreed_iff (hne : answers ≠ []) {format : String} :
    format ∈ agreed offered answers ↔ IsAllowed offered answers format := by
  obtain ⟨early, last, rfl⟩ := (List.eq_nil_or_concat' answers).resolve_left hne
  rw [agreed_append_singleton, List.mem_filter, decide_eq_true_iff]
  constructor
  · rintro ⟨hlast, hoffered, hearly⟩
    refine ⟨hoffered, List.forall_mem_append.mpr ⟨hearly, ?_⟩⟩
    exact fun answered hanswered => List.mem_singleton.mp hanswered ▸ hlast
  · rintro ⟨hoffered, hall⟩
    obtain ⟨hearly, hlast⟩ := List.forall_mem_append.mp hall
    exact ⟨hlast last (List.mem_singleton_self last), hoffered, hearly⟩

theorem common_of_ne_nil (hne : offered ≠ []) :
    common offered answered = answered.filter (· ∈ offered) := by
  rw [common, if_neg (by simpa using hne)]

/-- The next answer is narrowed by all that came before, not only by what is left. -/
theorem common_agreed (hne : answers ≠ [] → agreed offered answers ≠ []) :
    common (agreed offered answers) answered = answered.filter (IsAllowed offered answers) := by
  by_cases hanswers : answers = []
  · subst hanswers
    by_cases hoffered : offered = []
    · subst hoffered
      simp [agreed, common, IsAllowed]
    · change common offered answered = _
      rw [common_of_ne_nil hoffered]
      simp [IsAllowed, hoffered]
  · rw [common_of_ne_nil (hne hanswers)]
    simp only [mem_agreed_iff hanswers]

theorem negotiate_eq_error_iff {e : Error} :
    negotiate offered answered = .error e ↔
      e = .noCommonFormat offered answered ∧ common offered answered = [] := by
  rw [negotiate]
  by_cases hcommon : common offered answered = []
  · simp [hcommon, eq_comm]
  · simp [hcommon]

end Format

/-! ## Hearing of the stream -/

/-- How a session takes what the other side says: as an answer, or as a description that
also says in which directions media flows from now on. -/
inductive Hearing
  | answer
  | update
  deriving DecidableEq

/-- The mode of a session that has heard, given its own and the other side's. -/
def Hearing.mode (how : Hearing) (own other : Mode) : Mode :=
  match how with
  | .answer => own
  | .update => other.reverse

/-- Something that happens to what a session has agreed on. -/
inductive Signal
  | hear (how : Hearing) (description : Description)
  | setRemote (endpoint : Net.Endpoint)
  | setMode (mode : Mode)
  | close

namespace Session

def hear (s : Session) (how : Hearing) (d : Description) : Except Error Session :=
  match how with
  | .answer => s.negotiate d
  | .update => s.update d

theorem hear_eq (s : Session) (how : Hearing) (d : Description) :
    s.hear how d = (Format.negotiate s.formats d.formats).map fun formats =>
      { s.setRemote d.endpoint with formats, mode := how.mode s.mode d.mode } := by
  cases how with
  | answer => rfl
  | update =>
      rw [hear, update, negotiate]
      cases Format.negotiate s.formats d.formats <;> rfl

theorem hear_eq_error_iff {s : Session} {how : Hearing} {d : Description} {e : Error} :
    s.hear how d = .error e ↔
      e = .noCommonFormat s.formats d.formats ∧ Format.common s.formats d.formats = [] := by
  rw [hear_eq, ← Format.negotiate_eq_error_iff]
  cases Format.negotiate s.formats d.formats <;> simp [Except.map]

theorem hear_eq_ok_iff {s s' : Session} {how : Hearing} {d : Description} :
    s.hear how d = .ok s' ↔
      Format.common s.formats d.formats ≠ [] ∧
        { s.setRemote d.endpoint with
          formats := Format.common s.formats d.formats, mode := how.mode s.mode d.mode } = s' := by
  rw [hear_eq, Format.negotiate]
  by_cases hcommon : Format.common s.formats d.formats = []
  · simp [hcommon, Except.map]
  · simp [hcommon, Except.map]

/-- The session when something has happened. What does not fit leaves it as it was. -/
def react (s : Session) : Signal → Session
  | .hear how d => (s.hear how d).toOption.getD s
  | .setRemote e => s.setRemote e
  | .setMode mode => s.setMode mode
  | .close => s.close

/-- The session after some signals. -/
def after (s : Session) (signals : List Signal) : Session :=
  signals.foldl react s

/-- The formats of the answer in a signal, if it is one that fits. -/
def fitting? (s : Session) : Signal → Option (List String)
  | .hear how d => if (s.hear how d).isOk then some d.formats else none
  | _ => none

/-- The formats of the answers that fitted among some signals, in order. -/
def fitting (s : Session) : List Signal → List (List String)
  | [] => []
  | signal :: signals => (s.fitting? signal).toList ++ (s.react signal).fitting signals

theorem after_append (s : Session) (early late : List Signal) :
    s.after (early ++ late) = (s.after early).after late :=
  List.foldl_append

theorem fitting_append_singleton (s : Session) (signals : List Signal) (signal : Signal) :
    s.fitting (signals ++ [signal]) =
      s.fitting signals ++ ((s.after signals).fitting? signal).toList := by
  induction signals generalizing s with
  | nil => exact List.append_nil _
  | cons first signals ih =>
      rw [List.cons_append, fitting, ih, fitting, List.append_assoc]
      rfl

/-- What a session has agreed on, given the answers that fitted. -/
structure HasAgreed (offered : List String) (answers : List (List String)) (s : Session) :
    Prop where
  formats_eq : s.formats = Format.agreed offered answers
  ne_nil : answers ≠ [] → s.formats ≠ []

variable {s : Session} {offered : List String} {answers : List (List String)}

theorem HasAgreed.common_eq (h : s.HasAgreed offered answers) (answered : List String) :
    Format.common s.formats answered = answered.filter (Format.IsAllowed offered answers) := by
  rw [h.formats_eq]
  exact Format.common_agreed fun hne => h.formats_eq ▸ h.ne_nil hne

theorem HasAgreed.react (h : s.HasAgreed offered answers) (signal : Signal) :
    (s.react signal).HasAgreed offered (answers ++ (s.fitting? signal).toList) := by
  cases signal with
  | hear how d =>
      cases hhear : s.hear how d with
      | error e =>
          rw [Session.react, fitting?, hhear]
          exact (List.append_nil answers).symm ▸ h
      | ok s' =>
          obtain ⟨hcommon, rfl⟩ := hear_eq_ok_iff.mp hhear
          rw [Session.react, fitting?, hhear]
          refine ⟨?_, fun _ => hcommon⟩
          exact (h.common_eq d.formats).trans (Format.agreed_append_singleton _ _ _).symm
  | setRemote _ | setMode _ | close =>
      exact (List.append_nil answers).symm ▸ ⟨h.formats_eq, h.ne_nil⟩

theorem hasAgreed_after (s : Session) (signals : List Signal) :
    (s.after signals).HasAgreed s.formats (s.fitting signals) := by
  induction signals using List.reverseRecOn with
  | nil => exact ⟨rfl, fun h => absurd rfl h⟩
  | append_singleton signals signal ih =>
      rw [after_append, fitting_append_singleton]
      exact ih.react signal

/-- A list that is not empty narrows, but never to nothing. -/
theorem narrows_after (hne : s.formats ≠ []) (signals : List Signal) :
    (s.after signals).formats ≠ [] ∧ (s.after signals).formats ⊆ s.formats := by
  have h := s.hasAgreed_after signals
  by_cases hfitting : s.fitting signals = []
  · have hstill : (s.after signals).formats = s.formats := by rw [h.formats_eq, hfitting]; rfl
    rw [hstill]
    exact ⟨hne, List.Subset.refl _⟩
  · refine ⟨h.ne_nil hfitting, ?_⟩
    intro format hformat
    rw [h.formats_eq, Format.mem_agreed_iff hfitting] at hformat
    exact hformat.1.resolve_left hne

/-- However often a session hears of the stream, and whatever else happens to it: it has
the last answer that fitted, as far as its first formats and every earlier one allow. A
call fails, and says why, exactly when they allow nothing of its answer. Once an answer
has fitted there is always a format left, and one that is gone does not come back. -/
theorem formats_after (s : Session) (signals : List Signal) :
    let now := s.after signals
    let answers := s.fitting signals
    now.formats = Format.agreed s.formats answers ∧
    (∀ how d e, now.hear how d = .error e ↔
      e = .noCommonFormat now.formats d.formats ∧
        ∀ format ∈ d.formats, ¬ Format.IsAllowed s.formats answers format) ∧
    (answers ≠ [] → now.formats ≠ []) ∧
    ∀ later last format, format ∈ now.formats → format ∉ (now.after later).formats →
      format ∉ ((now.after later).after last).formats := by
  intro now answers
  have h : now.HasAgreed s.formats answers := s.hasAgreed_after signals
  refine ⟨h.formats_eq, ?_, h.ne_nil, ?_⟩
  · intro how d e
    rw [hear_eq_error_iff, h.common_eq, List.filter_eq_nil_iff]
    simp only [decide_eq_true_eq]
  · intro later last format hformat hgone hback
    obtain ⟨hlater, -⟩ := narrows_after (List.ne_nil_of_mem hformat) later
    exact hgone ((narrows_after hlater last).2 hback)

end Session

end MediaTransport.Media
