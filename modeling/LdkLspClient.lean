import LdkLspClient.Host
import LdkLspClient.Msgs
import LdkLspClient.Decimal
import LdkLspClient.Scid
import LdkLspClient.Promise
import LdkLspClient.Codec
import LdkLspClient.Manager
import LdkLspClient.Session
import LdkLspClient.Correlation
import LdkLspClient.Exchange
import LdkLspClient.Listen
import LdkLspClient.Api
import LdkLspClient.Threads
import LdkLspClient.Interleaving
