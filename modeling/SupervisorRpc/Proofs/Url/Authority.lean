import SupervisorRpc.Proofs.Text.Case
import SupervisorRpc.Proofs.Url.Parts

/-! Authorities.  A host is in lower case up to its zone, and lower-casing it once more changes nothing.
The main statements say which host and port are read from an authority that is written part by part,
and which authorities pass their checks. -/

namespace SupervisorRpc

namespace Url

variable {authority host port name : Text} {c : CodePoint}

/-! ### Hosts in lower case -/

/-- A host without its zone. -/
def hostName (host : Text) : Text := host.takeWhile (· != point '%')

/-- The zone of a host, with the sign in front of it. -/
def hostZone (host : Text) : Text := host.dropWhile (· != point '%')

theorem hostName_append_hostZone (host : Text) : hostName host ++ hostZone host = host :=
  List.takeWhile_append_dropWhile

theorem hostParts_of_notMem (h : point '%' ∉ host) : hostName host = host ∧ hostZone host = [] := by
  have hname : hostName host = host := congrArg Prod.fst (Text.cut_of_notMem h)
  have hsplit := hostName_append_hostZone host
  rw [hname] at hsplit
  exact ⟨hname, List.append_right_eq_self.mp hsplit⟩

theorem hostParts_append (h : point '%' ∉ name) (zone : Text) :
    hostName (name ++ point '%' :: zone) = name ∧
      hostZone (name ++ point '%' :: zone) = point '%' :: zone := by
  have hname : hostName (name ++ point '%' :: zone) = name :=
    congrArg Prod.fst (Text.cut_append h zone)
  have hsplit := hostName_append_hostZone (name ++ point '%' :: zone)
  rw [hname] at hsplit
  exact ⟨hname, List.append_cancel_left hsplit⟩

theorem hostZone_cases (host : Text) :
    hostZone host = [] ∨ ∃ zone, hostZone host = point '%' :: zone := by
  rcases Text.cut_cases (point '%') host with ⟨h, -⟩ | ⟨name, zone, h, rfl, -⟩
  · exact .inl (hostParts_of_notMem h).2
  · exact .inr ⟨zone, (hostParts_append h zone).2⟩

theorem lowerHost_eq (host : Text) : lowerHost host = (hostName host).lower ++ hostZone host := by
  rw [lowerHost]
  rcases Text.cut_cases (point '%') host with ⟨h, hcut⟩ | ⟨name, zone, h, rfl, hcut⟩
  · obtain ⟨hname, hzone⟩ := hostParts_of_notMem h
    rw [hcut, hname, hzone, List.append_nil]
  · obtain ⟨hname, hzone⟩ := hostParts_append h zone
    rw [hcut, hname, hzone]

theorem percent_notMem_lower (host : Text) : point '%' ∉ (hostName host).lower := fun h =>
  Text.notMem_cut (point '%') host (Text.mem_of_mem_lower (by decide) (by decide) h)

theorem hostParts_lowerHost (host : Text) :
    hostName (lowerHost host) = (hostName host).lower ∧
      hostZone (lowerHost host) = hostZone host := by
  rw [lowerHost_eq]
  rcases hostZone_cases host with hzone | ⟨zone, hzone⟩
  · rw [hzone, List.append_nil]
    exact hostParts_of_notMem (percent_notMem_lower host)
  · rw [hzone]
    exact hostParts_append (percent_notMem_lower host) zone

/-- A host that was read is read as it stands. -/
theorem lowerHost_lowerHost (host : Text) : lowerHost (lowerHost host) = lowerHost host := by
  obtain ⟨hname, hzone⟩ := hostParts_lowerHost host
  rw [lowerHost_eq (lowerHost host), hname, hzone, Text.lower_lower, ← lowerHost_eq]

theorem lowerHost_ne_nil (h : host ≠ []) : lowerHost host ≠ [] := by
  intro hnil
  rw [lowerHost_eq, List.append_eq_nil_iff] at hnil
  have hname : hostName host = [] := by
    by_contra hne
    exact Text.lower_ne_nil hne hnil.1
  have hsplit := hostName_append_hostZone host
  rw [hname, hnil.2] at hsplit
  exact h hsplit.symm

theorem mem_lowerHost (h : c ∈ lowerHost host) : c ∈ host ∨ c.LowerImage := by
  rw [lowerHost_eq, List.mem_append] at h
  rw [← hostName_append_hostZone host]
  rcases h with h | h
  · exact (Text.mem_lower h).imp_left fun hc => List.mem_append_left _ hc.1
  · exact .inl (List.mem_append_right _ h)

theorem mem_of_mem_lowerHost (hascii : c.isAscii = true) (hsmall : c.isAsciiLower = false)
    (h : c ∈ lowerHost host) : c ∈ host :=
  (mem_lowerHost h).resolve_right (CodePoint.not_lowerImage hascii hsmall)

theorem not_isAsciiUpper_of_lowerHost (h : c ∈ hostName (lowerHost host)) :
    c.isAsciiUpper = false := by
  rw [(hostParts_lowerHost host).1] at h
  exact CodePoint.not_isAsciiUpper_of_lower (Text.lower_eq_of_mem_lower h)

theorem lowerHost_of_isAscii (h : ∀ c ∈ host, c.isAscii = true) :
    lowerHost host = (hostName host).map CodePoint.asciiLower ++ hostZone host := by
  have hname : ∀ c ∈ hostName host, c.isAscii = true := fun c hc =>
    h c ((List.takeWhile_prefix _).subset hc)
  rw [lowerHost_eq, Text.lower_of_isAscii hname]

/-! ### Host and port -/

theorem hostPort_of_notMem (hopen : point '[' ∉ host) (hat : point '@' ∉ host)
    (hcolon : point ':' ∉ host) (hopen' : point '[' ∉ port) (hat' : point '@' ∉ port)
    (user : Option Text) :
    hostPort (user.elim [] (· ++ [point '@']) ++ (host ++ point ':' :: port)) =
      (host, if port = [] then none else some port) := by
  have hopen'' : point '[' ∉ host ++ point ':' :: port := by
    have hne : point '[' ≠ point ':' := by decide
    simp [hopen, hopen', hne]
  have hat'' : point '@' ∉ host ++ point ':' :: port := by
    have hne : point '@' ≠ point ':' := by decide
    simp [hat, hat', hne]
  have hending : (Text.cutLast (point '@')
      (user.elim [] (· ++ [point '@']) ++ (host ++ point ':' :: port))).2 =
        host ++ point ':' :: port := by
    cases user with
    | none => exact congrArg Prod.snd (Text.cutLast_of_notMem hat'')
    | some user =>
      rw [Option.elim_some, List.append_assoc]
      exact congrArg Prod.snd (Text.cutLast_append user hat'')
  rw [hostPort, hending]
  simp only [Text.cut_of_notMem hopen'', Text.cut_append hcolon, Option.some.injEq]

/-- The host of an authority stands in it, after the last `@`. -/
theorem mem_hostPort (h : c ∈ (hostPort authority).1) : c ∈ authority ∧ c ≠ point '@' := by
  have hending : c ∈ (Text.cutLast (point '@') authority).2 := by
    rw [hostPort] at h
    rcases Text.cut_cases (point '[') (Text.cutLast (point '@') authority).2 with
      ⟨-, hcut⟩ | ⟨before, inside, -, hending, hcut⟩
    · simp only [hcut] at h
      exact Text.mem_of_mem_cut h
    · simp only [hcut] at h
      rw [hending]
      exact List.mem_append_right _ (List.mem_cons_of_mem _ (Text.mem_of_mem_cut h))
  refine ⟨Text.mem_of_mem_cutLast hending, ?_⟩
  rintro rfl
  exact Text.notMem_cutLast _ _ hending

/-- A host may hold brackets of one kind only. -/
theorem bracket_notMem_hostPort (authority : Text) :
    point '[' ∉ (hostPort authority).1 ∨ point ']' ∉ (hostPort authority).1 := by
  rw [hostPort]
  rcases Text.cut_cases (point '[') (Text.cutLast (point '@') authority).2 with
    ⟨hopen, hcut⟩ | ⟨before, inside, -, -, hcut⟩
  · simp only [hcut]
    exact .inl fun h => hopen (Text.mem_of_mem_cut h)
  · simp only [hcut]
    exact .inr (Text.notMem_cut _ _)

/-! ### Checks -/

theorem not_confusable_of_checkAuthority (h : checkAuthority authority = .ok ()) :
    ∀ c ∈ authority, c.val ∉ confusables := by
  intro c hc hmem
  have hany : (authority.any fun c => c.val ∈ confusables) = true :=
    List.any_eq_true.mpr ⟨c, hc, by simpa using hmem⟩
  rw [checkAuthority, checkConfusables, if_pos hany] at h
  cases hbrackets : checkBrackets authority with
  | error e =>
    rw [hbrackets] at h
    cases h
  | ok _ =>
    rw [hbrackets] at h
    cases h

theorem checkAuthority_of_plain (hopen : point '[' ∉ authority) (hclose : point ']' ∉ authority)
    (hplain : ∀ c ∈ authority, c.val ∉ confusables) : checkAuthority authority = .ok () := by
  have hany : ¬(authority.any fun c => c.val ∈ confusables) = true := by
    rw [List.any_eq_true]
    rintro ⟨c, hc, hmem⟩
    exact hplain c hc (by simpa using hmem)
  have hbrackets : checkBrackets authority = .ok () := by
    simp only [checkBrackets, List.contains_eq_mem, hopen, hclose, decide_false]
  rw [checkAuthority, hbrackets, checkConfusables, if_neg hany]
  rfl

/-- Brackets of one kind are refused. -/
theorem checkAuthority_of_bracket
    (h : point '[' ∈ authority ∧ point ']' ∉ authority ∨
      point '[' ∉ authority ∧ point ']' ∈ authority) :
    checkAuthority authority = .error .brackets := by
  have hbrackets : checkBrackets authority = .error .brackets := by
    rcases h with ⟨hopen, hclose⟩ | ⟨hopen, hclose⟩ <;>
      simp only [checkBrackets, List.contains_eq_mem, hopen, hclose, decide_true, decide_false]
  rw [checkAuthority, hbrackets]
  rfl

/-- No letter in lower case is mistaken for a delimiter. -/
theorem not_confusable_of_lowerImage (h : c.LowerImage) : c.val ∉ confusables := by
  have hruns : ∀ run ∈ CodePoint.lowerRuns, ∀ n ∈ confusables,
      n < run.image ∨ run.image + (run.last - run.first) < n := by decide +kernel
  have hextras : ∀ n ∈ CodePoint.lowerExtras, n ∉ confusables := by decide
  rcases h with ⟨run, hrun, hlower, hupper, -⟩ | hextra
  · intro hmem
    rcases hruns run hrun c.val hmem with hbelow | habove <;> omega
  · exact hextras c.val hextra

end Url

end SupervisorRpc
