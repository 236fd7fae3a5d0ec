import TenantAuth.Proofs.Credential.WellFormed
import TenantAuth.Proofs.SignIn.Archive
import TenantAuth.Proofs.SignIn.Turns

/-!
Tokens are issued to those who proved who they are, and once for each sign-in token.

The sign-in token that is outstanding for a user was handed out in some earlier turn, in which a
password was accepted, and nothing replaced it since. This is kept from turn to turn, whatever
fails. A request that ends a sign-in presents the outstanding token and replaces it, so no later
request can present it again.
-/

namespace TenantAuth.SignIn

variable {ω : Type} {s : Services} {k : Collaborators ω} {kept : ω → Kept}
  {w : World ω} {t : Turn ω}

/-! ### What a turn asks -/

theorem harmless_nil : ∀ e ∈ ([] : List Exchange), e.Harmless :=
    fun _ he => absurd he List.not_mem_nil

theorem harmless_of_quiet (h : Quiet kept t.before t.after) : ∀ e ∈ t.asked, e.Harmless := by
  obtain ⟨_, more, hjournal, hharmless⟩ := h
  rw [asked_eq hjournal]
  exact hharmless

/-- Up to the storing of a credential, nothing was stored and no tokens were issued. -/
theorem asked_of_stored {c : Credential} {w₁ w₂ : World ω} {more : List Exchange}
    (hquiet : Quiet kept t.before w₁) (hstored : Stored kept c w₁ w₂)
    (hmore : t.after.journal = w₂.journal ++ more) :
    ∃ earlier, t.asked = earlier ++ ⟨.save c, none⟩ :: more ∧ ∀ e ∈ earlier, e.Harmless := by
  obtain ⟨_, earlier, hjournal, hharmless⟩ := hquiet
  refine ⟨earlier, asked_eq ?_, hharmless⟩
  rw [hmore, hstored.journal_eq, hjournal, List.append_assoc, List.append_assoc]
  rfl

/-- Tokens that a user is admitted to are asked for once and last. -/
theorem asked_of_admitted {user : UserId} {w₁ : World ω} (hquiet : Quiet kept t.before w₁)
    (hadmitted : Admitted kept user w₁ t.after) :
    ∃ earlier member refusal, t.asked = earlier ++
      [⟨.getMember user, none⟩, ⟨.issueTokens member, refusal⟩] ∧ ∀ e ∈ earlier, e.Harmless := by
  obtain ⟨_, earlier, hjournal, hharmless⟩ := hquiet
  obtain ⟨member, refusal, hissue⟩ := hadmitted.journal_eq
  exact ⟨earlier, member, refusal, asked_eq (by rw [hissue, hjournal, List.append_assoc]),
    hharmless⟩

theorem not_settles_of_harmless (h : ∀ e ∈ t.asked, e.Harmless) (user : UserId) :
    ¬t.Settles user := by
  rintro ⟨_, c, _, hsave⟩
  exact h _ hsave

/-! ### Tokens that are outstanding -/

/-- In some turn a password was accepted, and a sign-in token with its expiry handed out for a
user. -/
structure HandedOut (s : Services) (k : Collaborators ω) (kept : ω → Kept) (t : Turn ω)
    (user : UserId) (token : String) (expiry : Instant) : Prop where
  accepted : ∃ username password c, t.request = .authenticate username password ∧ c.userId = user ∧
    Accepts s k kept t.caller username password t.before c
  bound : ∃ c, kept t.after.outside user = some c ∧ c.userId = user ∧
    c.mfa.tokenHash = some (Token.hash token) ∧ c.mfa.tokenExpiry = some expiry
  reply_eq : t.reply = .ok (.outcome (.mfaRequired token))
  expires : t.now.add? s.tokenLifetime = some expiry

/-- No turn between two positions settled the sign-in token of a user. -/
def Unsettled (all : List (Turn ω)) (user : UserId) (p i : Nat) : Prop :=
  ∀ j t, p < j → j < i → all[j]? = some t → ¬t.Settles user

/-- Every outstanding sign-in token was handed out, and nothing settled it since. -/
def Backed (s : Services) (k : Collaborators ω) (kept : ω → Kept) (past : List (Turn ω))
    (w : World ω) : Prop :=
  ∀ user c hash, kept w.outside user = some c → c.mfa.tokenHash = some hash →
    ∃ p t token expiry, past[p]? = some t ∧ HandedOut s k kept t user token expiry ∧
      hash = Token.hash token ∧ c.mfa.tokenExpiry = some expiry ∧ Unsettled past user p past.length

/-- A turn that does not settle the token of a user leaves it unsettled. -/
theorem Unsettled.snoc {past : List (Turn ω)} {user : UserId} {p : Nat}
    (h : Unsettled past user p past.length) (ht : ¬t.Settles user) :
    Unsettled (past ++ [t]) user p (past ++ [t]).length := by
  intro j t' hp hj ht'
  rw [List.length_append, List.length_singleton] at hj
  by_cases hlast : j = past.length
  · subst hlast
    rw [List.getElem?_append_right (Nat.le_refl _), Nat.sub_self] at ht'
    obtain rfl := Option.some.inj ht'
    exact ht
  · rw [List.getElem?_append_left (by omega)] at ht'
    exact h j t' hp (by omega) ht'

/-- What was backed stays so through a turn that keeps the credentials and settles nothing. -/
theorem Backed.carried {past : List (Turn ω)} (h : Backed s k kept past t.before) {user : UserId}
    {c c₀ : Credential} {hash : String} (hc₀ : kept t.before.outside user = some c₀)
    (hhash : c₀.mfa.tokenHash = some hash) (hexpiry : c.mfa.tokenExpiry = c₀.mfa.tokenExpiry)
    (ht : ¬t.Settles user) :
    ∃ p t' token expiry, (past ++ [t])[p]? = some t' ∧ HandedOut s k kept t' user token expiry ∧
      hash = Token.hash token ∧ c.mfa.tokenExpiry = some expiry ∧
      Unsettled (past ++ [t]) user p (past ++ [t]).length := by
  obtain ⟨p, t', token, expiry, ht', hhanded, htoken, hexpiry₀, hunsettled⟩ :=
    h user c₀ hash hc₀ hhash
  refine ⟨p, t', token, expiry, ?_, hhanded, htoken, hexpiry.trans hexpiry₀, hunsettled.snoc ht⟩
  rw [List.getElem?_append_left (List.getElem?_eq_some_iff.1 ht').1]
  exact ht'

/-- What is asked after a credential was stored: nothing that matters, or tokens for a user. -/
def Rests (more : List Exchange) : Prop :=
  (∀ e ∈ more, e.Harmless) ∨
    ∃ user member refusal, more = [⟨.getMember user, none⟩, ⟨.issueTokens member, refusal⟩]

/-- A turn that stores a credential settles no token of other users. -/
theorem not_settles_of_other {earlier more : List Exchange} {c : Credential} {user : UserId}
    (hasked : t.asked = earlier ++ ⟨.save c, none⟩ :: more) (hearlier : ∀ e ∈ earlier, e.Harmless)
    (hmore : Rests more) (huser : user ≠ c.userId) : ¬t.Settles user := by
  rintro ⟨_, c', rfl, hsave⟩
  rw [hasked] at hsave
  rcases List.mem_append.1 hsave with hsave | hsave
  · exact hearlier _ hsave
  · rcases List.mem_cons.1 hsave with hsame | hsave
    · cases hsame
      exact huser rfl
    · rcases hmore with hmore | ⟨user, member, refusal, rfl⟩
      · exact hmore _ hsave
      · simp at hsave

/-- After a credential was stored, a turn asks nothing that matters, or for tokens. -/
theorem rests_of_stored {c : Credential} {user : UserId} {w₁ w₂ : World ω} {ends : Prop}
    (hquiet : Quiet kept t.before w₁) (hstored : Stored kept c w₁ w₂)
    (hrest : Quiet kept w₂ t.after ∨ ends ∧ Admitted kept user w₂ t.after) :
    kept t.after.outside = Function.update (kept t.before.outside) c.userId (some c) ∧
      ∃ earlier more, t.asked = earlier ++ ⟨.save c, none⟩ :: more ∧ (∀ e ∈ earlier, e.Harmless) ∧
        ((∀ e ∈ more, e.Harmless) ∨
          ends ∧ ∃ member refusal,
          more = [⟨.getMember user, none⟩, ⟨.issueTokens member, refusal⟩]) := by
  have hkept := hstored.kept_eq
  rw [hquiet.1] at hkept
  rcases hrest with ⟨hsame, more, hjournal, hharmless⟩ | ⟨hends, hadmitted⟩
  · obtain ⟨earlier, hasked, hearlier⟩ := asked_of_stored hquiet hstored hjournal
    exact ⟨hsame.trans hkept, earlier, more, hasked, hearlier, Or.inl hharmless⟩
  · obtain ⟨member, refusal, hjournal⟩ := hadmitted.journal_eq
    obtain ⟨earlier, hasked, hearlier⟩ := asked_of_stored hquiet hstored hjournal
    exact ⟨hadmitted.kept_eq.trans hkept, earlier, _, hasked, hearlier,
      Or.inr ⟨hends, member, refusal, rfl⟩⟩

/-- Every turn leaves outstanding tokens backed. -/
theorem backed_snoc {past : List (Turn ω)} (hpast : Backed s k kept past t.before)
    (ht : t.Comes s k kept) : Backed s k kept (past ++ [t]) t.after := by
  intro user c hash hc hhash
  unfold Turn.Comes at ht
  generalize hrequest : t.request = request at ht
  generalize hreply : t.reply = reply at ht
  cases ht with
  | idle hquiet =>
    rw [hquiet.1] at hc
    exact hpast.carried hc hhash rfl (not_settles_of_harmless (harmless_of_quiet hquiet) user)
  | admits accepts _ hquiet hadmitted =>
    obtain ⟨earlier, member, refusal, hasked, hearlier⟩ := asked_of_admitted hquiet hadmitted
    rw [hadmitted.kept_eq, hquiet.1] at hc
    refine hpast.carried hc hhash rfl ?_
    rintro ⟨_, c', _, hsave⟩
    rw [hasked] at hsave
    rcases List.mem_append.1 hsave with hsave | hsave
    · exact hearlier _ hsave
    · simp at hsave
  | @pays username password token c₀ c' n n' w₁ accepts initiated hquiet hstored =>
    obtain ⟨earlier, hasked, hearlier⟩ := asked_of_stored hquiet hstored (List.append_nil _).symm
    obtain ⟨_, _, expiry, hexpires, hc'⟩ := Credential.initiateMfa_ok initiated
    rw [hstored.kept_eq, hquiet.1] at hc
    by_cases huser : user = c'.userId
    · rw [huser, Function.update_self] at hc
      obtain rfl := Option.some.inj hc
      have hbound : c'.mfa = c₀.mfa.bind token expiry := congrArg Credential.mfa hc'
      rw [hbound] at hhash ⊢
      have hkept : kept t.after.outside user = some c' := by
        rw [hstored.kept_eq, huser, Function.update_self]
      refine ⟨past.length, t, token, expiry, List.getElem?_concat_length,
        ⟨?_, ⟨c', hkept, huser.symm, by rw [hbound]; exact ⟨rfl, rfl⟩⟩, hreply, hexpires⟩,
        (Option.some.inj hhash).symm, rfl, ?_⟩
      · exact ⟨username, password, c₀,
          hrequest, by rw [huser]; exact (congrArg Credential.userId hc').symm, accepts⟩
      · intro j _ hp hj
        rw [List.length_append, List.length_singleton] at hj
        omega
    · rw [Function.update_of_ne huser] at hc
      exact hpast.carried hc hhash rfl
        (not_settles_of_other hasked hearlier (Or.inl harmless_nil) huser)
  | @stores _ action answer c₀ c' n n' w₁ w₂ _ loaded acts done hquiet hstored rest =>
    obtain ⟨hkept, earlier, more, hasked, hearlier, hmore⟩ := rests_of_stored hquiet hstored rest
    have hholds := Credential.holds_perform done
    rw [hkept] at hc
    by_cases huser : user = c'.userId
    · rw [huser, Function.update_self] at hc
      obtain rfl := Option.some.inj hc
      rw [huser, hholds.userId_eq]
      by_cases hreplaces : action.ReplacesToken
      · rcases hholds.replaced hreplaces with rfl | hnone
        · cases acts
        · rw [hnone] at hhash
          cases hhash
      · obtain ⟨hsame, hexpiry⟩ := hholds.kept hreplaces
        refine hpast.carried loaded (hsame ▸ hhash) hexpiry ?_
        rintro ⟨hsettles, _⟩
        rw [hrequest] at hsettles
        exact hreplaces ((replacesToken_iff acts).2 hsettles)
    · rw [Function.update_of_ne huser] at hc
      refine hpast.carried hc hhash rfl (not_settles_of_other hasked hearlier ?_ huser)
      exact hmore.imp id fun ⟨_, member, refusal, h⟩ => ⟨c₀.userId, member, refusal, h⟩

/-- Outstanding tokens are backed after every course. -/
theorem backed_turns (hk : Keeps k kept) {past : List (Turn ω)} (hpast : Backed s k kept past w)
    (calls : List Call) : Backed s k kept (past ++ turns s k w calls) (final s k w calls) := by
  induction calls generalizing past w with
  | nil =>
    rw [turns, List.append_nil]
    exact hpast
  | cons call rest ih =>
    rw [turns, List.append_cons]
    exact ih (backed_snoc (t := turn s k w call) hpast (comes_turn hk w call))

/-! ### Issuing -/

/-- Someone who has not signed in presents a token to end a sign-in. -/
def Turn.Presents (t : Turn ω) (token : String) : Prop :=
  t.caller.userId = none ∧
    ((∃ kind oobCode typed, t.request = .verify (some token) kind oobCode typed) ∨
      ∃ kind oobCode typed, t.request = .confirm (some token) kind oobCode typed)

/-- Tokens were asked for once in a turn, at its end, for the member as which a user is known. -/
def Turn.AdmitsOnce (t : Turn ω) (user : UserId) (member : Member)
    (refusal : Option Fault) : Prop :=
  ∃ earlier, t.asked = earlier ++ [⟨.getMember user, none⟩, ⟨.issueTokens member, refusal⟩] ∧
    ∀ e ∈ earlier, ∀ other, e.question ≠ .issueTokens other

/-- A turn admits a user by a password, because no second factor is asked for. -/
def Turn.ByPassword (s : Services) (k : Collaborators ω) (kept : ω → Kept) (t : Turn ω)
    (user : UserId) : Prop :=
  ∃ username password c, t.request = .authenticate username password ∧ c.userId = user ∧
    Accepts s k kept t.caller username password t.before c ∧ c.mfa.isEnabled = false

/-- The turn at one position pays for that at a later one.

It handed out the sign-in token that the later one presents before its expiry, as far as the hash of
a token tells. The later one settles it, and no turn between the two did. -/
structure Pays (s : Services) (k : Collaborators ω) (kept : ω → Kept)
    (all : List (Turn ω)) (p i : Nat) (user : UserId) : Prop where
  earlier : p < i
  handedOut : ∃ paying t token presented expiry, all[p]? = some paying ∧ all[i]? = some t ∧
    HandedOut s k kept paying user token expiry ∧ t.Presents presented ∧
    Token.hash presented = Token.hash token ∧ t.now.isBefore expiry = true ∧ t.Settles user
  unsettled : Unsettled all user p i

/-- Whoever ends a sign-in has not signed in, and presents a token that is valid. -/
theorem presents_of_done {now : Instant} {action : Credential.Action} {answer : Credential.Answer}
    {c : Credential} {n : Draws} {d' : Desk} (hends : t.request.EndsSignIn t.caller)
    (hacts : Acts t.caller c t.request action)
    (hdone : Ends (Credential.perform s now action) ⟨c, n⟩ (.ok answer) d') :
    ∃ presented, t.Presents presented ∧ c.mfa.isValid presented now = true := by
  generalize hrequest : t.request = request at hends hacts
  cases hacts with
  | @confirm token oobCode kind typed speaker speaks =>
    cases speaks with
    | owner signedIn => cases signedIn.symm.trans hends
    | @bearer presented anonymous =>
      obtain ⟨_, hdone⟩ := Credential.answered hdone
      obtain ⟨hauthorized, _⟩ := Credential.confirm_ok hdone
      exact ⟨presented, ⟨anonymous, Or.inr ⟨kind, oobCode, typed, hrequest⟩⟩,
        (Credential.unauthorized?_eq_none.1 hauthorized).2 presented rfl⟩
  | @verify presented oobCode kind typed anonymous =>
    obtain ⟨_, hdone⟩ := Credential.answered hdone
    obtain ⟨hauthorized, _⟩ := Credential.verify_ok hdone
    exact ⟨presented, ⟨anonymous, Or.inl ⟨kind, oobCode, typed, hrequest⟩⟩,
      (Credential.unauthorized?_eq_none.1 hauthorized).2 presented rfl⟩
  | _ => exact False.elim hends

theorem ne_issueTokens_of_harmless {e : Exchange} (h : e.Harmless) (member : Member) :
    e.question ≠ .issueTokens member := by
  obtain ⟨question, refusal⟩ := e
  rintro rfl
  exact h

/-- Tokens that are asked for at the end of a turn are the only ones that are asked for in it. -/
theorem admitsOnce_of_asked {user : UserId} {member member' : Member}
    {refusal refusal' : Option Fault} {earlier : List Exchange}
    (hasked : t.asked = earlier ++ [⟨.getMember user, none⟩, ⟨.issueTokens member, refusal⟩])
    (hearlier : ∀ e ∈ earlier, ∀ other, e.question ≠ .issueTokens other)
    (hissue : ⟨.issueTokens member', refusal'⟩ ∈ t.asked) : t.AdmitsOnce user member' refusal' := by
  rw [hasked] at hissue
  rcases List.mem_append.1 hissue with hissue | hissue
  · exact absurd rfl (hearlier _ hissue member')
  · have hsame : member' = member ∧ refusal' = refusal := by simpa using hissue
    obtain ⟨rfl, rfl⟩ := hsame
    exact ⟨earlier, hasked, hearlier⟩

/-- Tokens are issued in a turn that admits its user by a password, or after some turn paid for
it. -/
theorem admitted_of_issued {past : List (Turn ω)} (hpast : Backed s k kept past t.before)
    (ht : t.Comes s k kept) {member : Member} {refusal : Option Fault}
    (hissue : ⟨.issueTokens member, refusal⟩ ∈ t.asked) :
    ∃ user, t.AdmitsOnce user member refusal ∧
      (t.ByPassword s k kept user ∨ ∃ p, Pays s k kept (past ++ [t]) p past.length user) := by
  unfold Turn.Comes at ht
  generalize hrequest : t.request = request at ht
  generalize hreply : t.reply = reply at ht
  cases ht with
  | idle hquiet => exact absurd (harmless_of_quiet hquiet _ hissue) id
  | @admits username password c _ _ accepts disabled hquiet hadmitted =>
    obtain ⟨earlier, member', refusal', hasked, hearlier⟩ := asked_of_admitted hquiet hadmitted
    exact ⟨c.userId, admitsOnce_of_asked hasked
      (fun e he => ne_issueTokens_of_harmless (hearlier e he)) hissue,
      Or.inl ⟨username, password, c, hrequest, rfl, accepts, disabled⟩⟩
  | pays _ _ hquiet hstored =>
    obtain ⟨earlier, hasked, hearlier⟩ := asked_of_stored hquiet hstored (List.append_nil _).symm
    rw [hasked] at hissue
    rcases List.mem_append.1 hissue with hissue | hissue
    · exact absurd (hearlier _ hissue) id
    · simp at hissue
  | @stores _ action answer c c' n n' w₁ w₂ _ loaded acts done hquiet hstored rest =>
    obtain ⟨_, earlier, more, hasked, hearlier, hmore⟩ := rests_of_stored hquiet hstored rest
    have hearlier' :
        ∀ e ∈ earlier ++ [⟨.save c', none⟩], ∀ other, e.question ≠ .issueTokens other := by
      intro e he other
      rcases List.mem_append.1 he with he | he
      · exact ne_issueTokens_of_harmless (hearlier e he) other
      · rw [List.mem_singleton.1 he]
        exact nofun
    rw [List.append_cons] at hasked
    rcases hmore with hmore | ⟨hends, member', refusal', rfl⟩
    · rw [hasked] at hissue
      rcases List.mem_append.1 hissue with hissue | hissue
      · exact absurd rfl (hearlier' _ hissue member)
      · exact absurd (hmore _ hissue) id
    · refine ⟨c.userId, admitsOnce_of_asked hasked hearlier' hissue, Or.inr ?_⟩
      rw [← hrequest] at hends acts
      obtain ⟨presented, hpresents, hvalid⟩ := presents_of_done hends acts done
      obtain ⟨hhash, expiry, hexpiry, hbefore⟩ := isValid_iff.1 hvalid
      obtain ⟨p, paying, token, expiry', hpaying, hhanded, htoken, hexpiry', hunsettled⟩ :=
        hpast c.userId c _ loaded hhash
      obtain rfl := Option.some.inj (hexpiry.symm.trans hexpiry')
      have hp : p < past.length := (List.getElem?_eq_some_iff.1 hpaying).1
      refine ⟨p, hp, ⟨paying, t, token, presented, expiry, ?_, List.getElem?_concat_length,
        hhanded, hpresents, htoken, hbefore, hends.replacesToken, c',
        (Credential.holds_perform done).userId_eq, ?_⟩, ?_⟩
      · rw [List.getElem?_append_left hp]
        exact hpaying
      · rw [hasked]
        simp
      · intro j t' hpj hj ht'
        rw [List.getElem?_append_left hj] at ht'
        exact hunsettled j t' hpj hj ht'

/-- What pays in the first turns pays in all of them. -/
theorem Pays.of_take {all : List (Turn ω)} {p i : Nat} {user : UserId}
    (h : Pays s k kept (all.take (i + 1)) p i user) : Pays s k kept all p i user := by
  obtain ⟨hp, ⟨paying, t, token, presented, expiry, hpaying, ht, hrest⟩, hunsettled⟩ := h
  rw [List.getElem?_take_of_lt (by omega)] at hpaying ht
  refine ⟨hp, ⟨paying, t, token, presented, expiry, hpaying, ht, hrest⟩, ?_⟩
  intro j t' hpj hj ht'
  exact hunsettled j t' hpj hj (by rw [List.getElem?_take_of_lt (by omega)]; exact ht')

/-- A sign-in token is handed out for one user. -/
theorem HandedOut.user_eq {user user' : UserId} {token token' : String} {expiry expiry' : Instant}
    (h : HandedOut s k kept t user token expiry) (h' : HandedOut s k kept t user' token' expiry') :
    user = user' := by
  obtain ⟨username, password, c, hrequest, rfl, haccepts⟩ := h.accepted
  obtain ⟨username', password', c', hrequest', rfl, haccepts'⟩ := h'.accepted
  obtain ⟨rfl, rfl⟩ := Request.authenticate.inj (hrequest.symm.trans hrequest')
  rw [Option.some.inj (Except.ok.inj (haccepts.found.symm.trans haccepts'.found))]

/-- What a turn paid for once, it does not pay for later. -/
theorem Pays.not_lt {all : List (Turn ω)} {p i j : Nat} {user user' : UserId}
    (hi : Pays s k kept all p i user) (hj : Pays s k kept all p j user') : ¬i < j := by
  intro hlt
  obtain ⟨paying, t, _, _, _, hpaying, ht, hhanded, _, _, _, hsettles⟩ := hi.handedOut
  obtain ⟨paying', _, _, _, _, hpaying', _, hhanded', _⟩ := hj.handedOut
  obtain rfl := Option.some.inj (hpaying.symm.trans hpaying')
  obtain rfl := hhanded.user_eq hhanded'
  exact hj.unsettled i t hi.earlier hlt ht hsettles

/-- Tokens are issued in a turn that admits its user by a password, or that an earlier turn paid
for. -/
theorem admitted_of_getElem? (hk : Keeps k kept)
    (hnone : ∀ user c, kept w.outside user = some c → c.mfa.tokenHash = none)
    {calls : List Call} {i : Nat} {member : Member} {refusal : Option Fault}
    (ht : (turns s k w calls)[i]? = some t) (hissue : ⟨.issueTokens member, refusal⟩ ∈ t.asked) :
    ∃ user, t.AdmitsOnce user member refusal ∧
      (t.ByPassword s k kept user ∨ ∃ p, Pays s k kept (turns s k w calls) p i user) := by
  obtain ⟨call, rfl⟩ := turns_getElem? ht
  obtain ⟨hi, hturn⟩ := List.getElem?_eq_some_iff.1 ht
  have hnothing : Backed s k kept [] w := by
    intro user c hash hc hhash
    rw [hnone user c hc] at hhash
    cases hhash
  have hpast := backed_turns (s := s) hk hnothing (calls.take i)
  rw [List.nil_append, ← take_turns] at hpast
  obtain ⟨user, honce, hadmitted⟩ := admitted_of_issued hpast (comes_turn hk _ call) hissue
  refine ⟨user, honce, hadmitted.imp id fun ⟨p, hpays⟩ => ⟨p, Pays.of_take ?_⟩⟩
  rw [List.length_take, Nat.min_eq_left (Nat.le_of_lt hi)] at hpays
  rw [List.take_succ_eq_append_getElem hi, hturn]
  exact hpays

/-- Whenever tokens are issued, it is to a user whose password was just accepted while no second
factor is asked for, or to one who presents a sign-in token that was handed out to them, has not
expired, and was neither replaced nor used since; and each sign-in token is used so once. -/
theorem issuance_justified (hk : Keeps k kept)
    (hnone : ∀ user c, kept w.outside user = some c → c.mfa.tokenHash = none) (calls : List Call) :
    (∀ i t member refusal, (turns s k w calls)[i]? = some t →
      ⟨.issueTokens member, refusal⟩ ∈ t.asked → ∃ user, t.AdmitsOnce user member refusal ∧
        (t.ByPassword s k kept user ∨ ∃ p, Pays s k kept (turns s k w calls) p i user)) ∧
    ∀ p i j user user', Pays s k kept (turns s k w calls) p i user →
      Pays s k kept (turns s k w calls) p j user' → i = j := by
  refine ⟨fun i t member refusal ht hissue => admitted_of_getElem? hk hnone ht hissue, ?_⟩
  intro p i j user user' hi hj
  exact Nat.le_antisymm (Nat.le_of_not_lt (hj.not_lt hi)) (Nat.le_of_not_lt (hi.not_lt hj))

/-- A password is accepted, and the sign-in ended by a recovery code. -/
def sampleCalls : List Call :=
  [⟨⟨10, 0⟩, .anonymous "call", .authenticate "ann@example.com" "password"⟩,
    ⟨⟨20, 0⟩, .anonymous "call", .verify (some "mfatoken1") .recoveryCodes none "bb-bb"⟩]

/-- No sign-in token is outstanding for the sample credential. -/
theorem tokenHash_sample (user : UserId) (c : Credential)
    (h : Archive.latest [Credential.sample] user = some c) : c.mfa.tokenHash = none := by
  rw [List.mem_singleton.1 (List.mem_of_find?_eq_some h)]
  decide +kernel

/-- The turns of calls where the sample credential is kept. -/
def sampleTurns (calls : List Call) : List (Turn (List Credential)) :=
  turns Script.sample.services Archive.collaborators ⟨[Credential.sample], .none, []⟩ calls

theorem issuance_justified_sampleCalls :
    ∃ t, (sampleTurns sampleCalls)[1]? = some t ∧ ⟨.issueTokens ⟨⟨⟨1#128⟩⟩, .person, []⟩, none⟩ ∈
      t.asked ∧ ∃ user, t.AdmitsOnce user ⟨⟨⟨1#128⟩⟩, .person, []⟩ none ∧
        (t.ByPassword Script.sample.services Archive.collaborators Archive.latest user ∨
          ∃ p, Pays Script.sample.services Archive.collaborators Archive.latest
            (sampleTurns sampleCalls) p 1 user) :=
  ⟨_, rfl, by decide +kernel,
    (issuance_justified Archive.keeps tokenHash_sample sampleCalls).1 1 _ _ _ rfl
    (by decide +kernel)⟩

end TenantAuth.SignIn
