import IdentityVault.Http
import IdentityVault.Strconv
import IdentityVault.Keypair
import IdentityVault.Generation
import IdentityVault.Registry
import IdentityVault.Transaction
import IdentityVault.Account
import IdentityVault.Migration
import IdentityVault.Lifecycle
