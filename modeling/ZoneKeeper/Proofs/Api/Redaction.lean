import Mathlib
import ZoneKeeper.Proofs.Api.Dialogue
import ZoneKeeper.Proofs.Url.Form

namespace ZoneKeeper

namespace Request

/-- The parameters of a query whose values are credentials. -/
def isSecret (name : Text) : Bool :=
  name = Text.ofString "login" || name = Text.ofString "passwd"

def redactParameter (t : Text) : Text :=
  if isSecret (Text.cut 0x3D t).1 then (Text.cut 0x3D t).1 else t

def redactQuery (query : Text) : Text :=
  Text.join [0x26] ((query.splitOn 0x26).map redactParameter)

def redacted (r : Request) : Request :=
  { r with url := { r.url with query := r.url.query.map redactQuery } }

theorem redactParameter_entryText (e : Text × Text) :
    redactParameter (Form.entryText e) =
      if isSecret (Form.encodeText e.1) then Form.encodeText e.1 else Form.entryText e := by
  have hcut : Text.cut 0x3D (Form.entryText e) =
      (Form.encodeText e.1, some (Form.encodeText e.2)) :=
    Text.cut_append (Form.not_mem_encodeText (by decide) _) _
  rw [redactParameter, hcut]

/-- In the text of a form each entry is redacted for itself. -/
theorem redactQuery_encode {entries : Form.Entries} (h : entries ≠ []) :
    redactQuery (Form.encode entries) =
      Text.join [0x26] (entries.map fun e => redactParameter (Form.entryText e)) := by
  rw [redactQuery, Form.splitOn_encode h, List.map_map]
  rfl

end Request

namespace Transcript
variable {α : Type}

def redacted (t : Transcript α) : Transcript α :=
  { t with requests := t.requests.map Request.redacted }

/-- Redacting takes nothing from a transcript but values in its requests. -/
theorem eq_of_redacted_eq {t t' : Transcript α} (h : t.redacted = t'.redacted) :
    t.outcome = t'.outcome ∧ t.log = t'.log ∧
      t.requests.map Request.redacted = t'.requests.map Request.redacted := by
  obtain ⟨hrequests, hlog, houtcome⟩ := Transcript.mk.inj h
  exact ⟨houtcome, hlog, hrequests⟩

end Transcript

namespace Dialogue
variable {α β : Type}

def redacted : Dialogue α → Dialogue α
  | done a => done a
  | fail f => fail f
  | log e next => log e next.redacted
  | call r next => call r.redacted fun x => (next x).redacted

theorem redacted_bind (d : Dialogue α) (f : α → Dialogue β) :
    (d >>= f).redacted = d.redacted >>= fun a => (f a).redacted := by
  simp only [bind_eq]
  induction d with
  | done a => rfl
  | fail f => rfl
  | log e next ih => simp only [bind, redacted, ih]
  | call r next ih =>
    simp only [bind, redacted]
    congr 1
    funext x
    exact ih x

/-- What is logged and reported of a call does not come from its address. -/
theorem redacted_exchange (r : Request) : (exchange r).redacted = exchange r.redacted := by
  simp only [exchange, redacted, Request.redacted]
  congr 2
  funext d
  cases d.reply with
  | nothing cause => rfl
  | brokenBody status cause => rfl
  | body status text =>
    simp only [redacted]
    split_ifs with h
    · rfl
    · rfl

/-- Redacted work meets the same answers, so it leaves the same behind. -/
theorem run_redacted (d : Dialogue α) (script : Script) :
    d.redacted.run script = (d.run script).redacted := by
  induction d generalizing script with
  | done a => rfl
  | fail f => rfl
  | log e next ih =>
    simp only [redacted, run, ih]
    rfl
  | call r next ih =>
    simp only [redacted, run, ih]
    rfl

end Dialogue

end ZoneKeeper
