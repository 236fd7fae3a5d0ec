import TenantAuth.Proofs.SignIn.Keeping

/-!
Collaborators that keep every version of a credential, and of each user count the latest.
-/

namespace TenantAuth.SignIn.Archive

/-- The latest version of the credential of a user. -/
def latest (versions : List Credential) (user : UserId) : Option Credential :=
  versions.find? fun c => c.userId = user

/-- A credential that is the latest version of its user and satisfies a condition. -/
def find (condition : Credential → Bool) (versions : List Credential) :
    Except Fault (Option Credential) × List Credential :=
  (.ok (versions.find? fun c => condition c && latest versions c.userId = some c), versions)

/-- Collaborators that refuse nothing and know every user as a person. -/
def collaborators : Collaborators (List Credential) where
  findByUser user := find fun c => c.userId = user
  findByToken token := find fun c => c.mfa.isBoundTo token
  findByUsername username := find fun c => c.username.any fun e => e.text = username
  save c versions := (.ok c, c :: versions)
  getUser _ user versions := (.ok ⟨user, .person⟩, versions)
  getMember _ user versions := (.ok ⟨user, .person, []⟩, versions)
  getProfile _ user versions := (.ok ⟨user, "", none, none⟩, versions)
  notify _ _ versions := (.ok (), versions)
  issueTokens _ _ versions := (.ok ⟨"access", ⟨0, 0⟩, "refresh", ⟨0, 0⟩⟩, versions)
  registerMachine _ _ _ _ versions := (.ok ⟨⟨⟨0#128⟩⟩, .machine⟩, versions)
  createApiKey _ user description expiresOn versions :=
    (.ok ⟨"key", user, description, expiresOn⟩, versions)

/-- What is found is the latest version. -/
theorem shows_find (condition : Credential → Bool) : Shows latest (find condition) := by
  refine fun versions => ⟨rfl, fun c hfound => ?_⟩
  have hlatest := List.find?_some (Except.ok.inj hfound)
  simp only [Bool.and_eq_true, decide_eq_true_eq] at hlatest
  exact hlatest.2

/-- The latest versions are kept. -/
theorem keeps : Keeps collaborators latest where
  findByUser _ := shows_find _
  findByToken _ := shows_find _
  findByUsername _ := shows_find _
  saved := by
    intro c versions _ _
    funext user
    by_cases huser : user = c.userId
    · rw [huser, Function.update_self]
      exact List.find?_cons_of_pos (by simp)
    · rw [Function.update_of_ne huser]
      exact List.find?_cons_of_neg (by simpa using Ne.symm huser)
  unsaved := by
    intro c versions fault hrefused
    have hsaved : Except.ok c = .error fault := hrefused
    cases hsaved
  getUser _ _ _ := rfl
  getMember _ _ _ := rfl
  getProfile _ _ _ := rfl
  notify _ _ _ := rfl
  issueTokens _ _ _ := rfl
  registerMachine _ _ _ _ _ := rfl
  createApiKey _ _ _ _ _ := rfl

end TenantAuth.SignIn.Archive
