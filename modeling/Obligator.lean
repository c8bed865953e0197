import Obligator.Failures
import Obligator.Registration
import Obligator.UserAgent
import Obligator.Redirects
import Obligator.Boot
