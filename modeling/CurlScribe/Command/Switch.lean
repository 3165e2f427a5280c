/-
This file lists the options of curl that take no value. Without the list the word after
`-sL` could not be told from the word after `-X`: the reader of a command asks it whether
the next word belongs to the option. It holds every option whose argument is a yes or a
no or nothing, the `no-` form of every yes-or-no option, and the one-letter aliases, all
without their dashes and in the order of their code points.
-/

namespace CurlScribe

/-! ### The registry -/

/-- The names, without dashes, of the options that take no value. -/
def switchNames : List String := [
  "#", "0", "1", "2", "3", "4", "6", ":", "B", "G", "I", "J", "L", "M", "N", "O", "S", "V",
  "Z", "a", "alpn", "anyauth", "append", "basic", "buffer", "ca-native", "cert-status",
  "clobber", "compressed", "compressed-ssh", "create-dirs", "crlf", "digest", "disable",
  "disable-eprt", "disable-epsv", "disallow-username-in-url", "doh-cert-status",
  "doh-insecure", "environment", "eprt", "epsv", "f", "fail", "fail-early", "fail-with-body",
  "false-start", "ftp-create-dirs", "ftp-pasv", "ftp-pret", "ftp-skip-pasv-ip", "ftp-ssl-ccc",
  "ftp-ssl-control", "g", "get", "globoff", "h", "haproxy-protocol", "head", "help", "http0.9",
  "http1.0", "http1.1", "http2", "http2-prior-knowledge", "http3", "http3-only", "i",
  "ignore-content-length", "include", "insecure", "ipv4", "ipv6", "j", "junk-session-cookies",
  "k", "keepalive", "l", "list-only", "location", "location-trusted", "mail-rcpt-allowfails",
  "manual", "metalink", "n", "negotiate", "netrc", "netrc-optional", "next", "no-alpn",
  "no-anyauth", "no-append", "no-basic", "no-buffer", "no-ca-native", "no-cert-status",
  "no-clobber", "no-compressed", "no-compressed-ssh", "no-create-dirs", "no-crlf", "no-digest",
  "no-disable-eprt", "no-disable-epsv", "no-disallow-username-in-url", "no-doh-cert-status",
  "no-doh-insecure", "no-eprt", "no-epsv", "no-fail", "no-fail-early", "no-fail-with-body",
  "no-false-start", "no-ftp-create-dirs", "no-ftp-pasv", "no-ftp-pret", "no-ftp-skip-pasv-ip",
  "no-ftp-ssl-ccc", "no-ftp-ssl-control", "no-get", "no-globoff", "no-haproxy-protocol",
  "no-head", "no-http0.9", "no-include", "no-insecure", "no-junk-session-cookies",
  "no-keepalive", "no-list-only", "no-location", "no-location-trusted",
  "no-mail-rcpt-allowfails", "no-metalink", "no-negotiate", "no-netrc", "no-netrc-optional",
  "no-npn", "no-ntlm", "no-ntlm-wb", "no-parallel", "no-parallel-immediate", "no-path-as-is",
  "no-post301", "no-post302", "no-post303", "no-progress-bar", "no-progress-meter",
  "no-proxy-anyauth", "no-proxy-basic", "no-proxy-ca-native", "no-proxy-digest",
  "no-proxy-insecure", "no-proxy-negotiate", "no-proxy-ntlm", "no-proxy-ssl-allow-beast",
  "no-proxy-ssl-auto-client-cert", "no-proxy-tunnel", "no-raw", "no-remote-header-name",
  "no-remote-name", "no-remote-name-all", "no-remove-on-error", "no-retry-all-errors",
  "no-retry-connrefused", "no-sasl-ir", "no-sessionid", "no-show-error", "no-silent",
  "no-skip-existing", "no-socks5-gssapi-nec", "no-ssl", "no-ssl-allow-beast",
  "no-ssl-auto-client-cert", "no-ssl-no-revoke", "no-ssl-reqd", "no-ssl-revoke-best-effort",
  "no-styled-output", "no-suppress-connect-headers", "no-tcp-fastopen", "no-tcp-nodelay",
  "no-tr-encoding", "no-trace-ids", "no-trace-time", "no-use-ascii", "no-verbose", "no-xattr",
  "npn", "ntlm", "ntlm-wb", "p", "parallel", "parallel-immediate", "path-as-is", "post301",
  "post302", "post303", "progress-bar", "progress-meter", "proxy-anyauth", "proxy-basic",
  "proxy-ca-native", "proxy-digest", "proxy-http2", "proxy-insecure", "proxy-negotiate",
  "proxy-ntlm", "proxy-ssl-allow-beast", "proxy-ssl-auto-client-cert", "proxy-tunnel", "q",
  "raw", "remote-header-name", "remote-name", "remote-name-all", "remove-on-error",
  "retry-all-errors", "retry-connrefused", "s", "sasl-ir", "sessionid", "show-error", "silent",
  "skip-existing", "socks5-gssapi-nec", "ssl", "ssl-allow-beast", "ssl-auto-client-cert",
  "ssl-no-revoke", "ssl-reqd", "ssl-revoke-best-effort", "sslv2", "sslv3", "styled-output",
  "suppress-connect-headers", "tcp-fastopen", "tcp-nodelay", "tlsv1", "tlsv1.0", "tlsv1.1",
  "tlsv1.2", "tlsv1.3", "tr-encoding", "trace-ids", "trace-time", "use-ascii", "v", "verbose",
  "version", "xattr"]

/-- The option with this name takes no value. -/
def isSwitch (name : String) : Bool :=
  switchNames.contains name

theorem isSwitch_iff (name : String) : isSwitch name = true ↔ name ∈ switchNames := by
  simp [isSwitch]

/-- Switches are told from options with a value by their exact name. -/
example : isSwitch "insecure" = true ∧ isSwitch "INSECURE" = false ∧ isSwitch "X" = false := by
  decide +kernel

end CurlScribe
