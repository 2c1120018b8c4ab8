import Emplace.Files.Disk
import Emplace.Program.Utility

namespace Emplace.Program

open Files (Tree Disk)

def bareFolders (names : List String) : List (String × Tree) := names.map fun name => (name, .folder [])

def textFiles (files : List (String × String)) : List (String × Tree) :=
  files.map fun (name, text) => (name, .file (Text.bytesOf text))

def listed (names : String) : List String := names.splitOn " "

def runnerNames : List String := listed "dash env nice nohup setsid stdbuf timeout xargs"

def otherNames : List String :=
  listed "apt apt-get arch awk b2sum base32 base64 basenc bash chcon chgrp chmod chown chrt cksum clear cmp cp" ++
    listed "csplit date dd df diff diff3 dir dircolors dmesg dnsdomainname domainname dpkg du factor fallocate find" ++
    listed "findmnt flock fmt getconf getent getopt gpasswd groups gunzip gzip hostid hostname iconv infocmp install" ++
    listed "ionice ipcs join last ldd link ln locale localedef logger login logname ls lsblk lscpu mawk mcookie" ++
    listed "md5sum mesg mkdir mkfifo mknod mktemp more mount mountpoint mv namei newgrp nproc nsenter numfmt od pager" ++
    listed "passwd pathchk perl pinky pr prlimit ptx rbash readlink realpath renice reset rgrep rm rmdir run-parts" ++
    listed "runcon savelog script sdiff setarch setpriv setterm sg sha1sum sha224sum sha256sum sha384sum sha512sum" ++
    listed "shred shuf split stat stty su sum sync tabs tar taskset tee tempfile tic toe touch tput tset tsort tty" ++
    listed "umount uname uncompress unexpand unlink unshare users vdir wall whereis which who zcat zcmp zdiff zgrep" ++
    listed "zless zmore znew"

def programs : List (String × Tree) :=
  ("sh", .link "dash") ::
    (runnerNames ++ utilities.map Prod.fst ++ otherNames).map fun name => (name, .file [])

def devices : List (String × Tree) :=
  (listed "full null ptmx random stderr stdin stdout tty urandom zero").map (fun name => (name, .device)) ++
    bareFolders ["fd", "mqueue", "pts", "shm"]

def users : String :=
  let nobody (name number folder text : String) : String :=
    s!"{name}:x:{number}:{number}:{text}:{folder}:/usr/sbin/nologin\n"
  "root:x:0:0:root:/root:/bin/bash\n" ++ nobody "daemon" "1" "/usr/sbin" "daemon" ++ nobody "bin" "2" "/bin" "bin" ++
    nobody "sys" "3" "/dev" "sys" ++ "sync:x:4:65534:sync:/bin:/bin/sync\n" ++
    "games:x:5:60:games:/usr/games:/usr/sbin/nologin\n" ++ "man:x:6:12:man:/var/cache/man:/usr/sbin/nologin\n" ++
    nobody "lp" "7" "/var/spool/lpd" "lp" ++ nobody "mail" "8" "/var/mail" "mail" ++
    nobody "news" "9" "/var/spool/news" "news" ++ nobody "uucp" "10" "/var/spool/uucp" "uucp" ++
    nobody "proxy" "13" "/bin" "proxy" ++ nobody "www-data" "33" "/var/www" "www-data" ++
    nobody "backup" "34" "/var/backups" "backup" ++ nobody "list" "38" "/var/list" "Mailing List Manager" ++
    nobody "irc" "39" "/run/ircd" "ircd" ++ "_apt:x:42:65534::/nonexistent:/usr/sbin/nologin\n" ++
    nobody "nobody" "65534" "/nonexistent" "nobody"

def groups : String :=
  let names := listed "root daemon bin sys adm tty disk lp mail news uucp man proxy kmem dialout fax voice cdrom floppy" ++
    listed "tape sudo audio dip www-data backup operator list irc src shadow utmp video sasl plugdev staff games users nogroup"
  let numbers := listed "0 1 2 3 4 5 6 7 8 9 10 12 13 15 20 21 22 24 25 26 27 29 30 33 34 37 38 39 40 42 43 44 45 46" ++
    listed "50 60 100 65534"
  String.join ((names.zip numbers).map fun (name, number) => s!"{name}:x:{number}:\n")

def hostSettings : List (String × Tree) :=
  textFiles [("group", groups), ("group-", groups), ("host.conf", "multi on\n"), ("hostname", "host\n"),
    ("hosts", "127.0.0.1\tlocalhost\n"), ("passwd", users), ("passwd-", users),
    ("resolv.conf", "nameserver 127.0.0.1\n"),
    ("shells", "# /etc/shells: valid login shells\n/bin/sh\n/usr/bin/sh\n/bin/bash\n/usr/bin/bash\n" ++
      "/bin/rbash\n/usr/bin/rbash\n/bin/dash\n/usr/bin/dash\n")] ++
    (listed ".pwd.lock adduser.conf bash.bashrc bindresvport.blacklist debconf.conf debian_version deluser.conf" ++
      listed "e2scrub.conf environment fstab gai.conf gshadow gshadow- issue issue.net ld.so.cache ld.so.conf" ++
      listed "libaudit.conf localtime login.defs machine-id mke2fs.conf motd mtab nsswitch.conf os-release pam.conf" ++
      listed "profile rmt shadow shadow- subgid subgid- subuid subuid- timezone xattr.conf").map
        (fun name => (name, .file [])) ++
    bareFolders (listed "alternatives apt cron.d cron.daily default dpkg gss init.d kernel ld.so.conf.d logrotate.d" ++
      listed "opt pam.d profile.d rc0.d rc1.d rc2.d rc3.d rc4.d rc5.d rc6.d rcS.d security selinux skel systemd" ++
      listed "terminfo update-motd.d")

def hostTree : Tree := .folder <|
  [("bin", .link "usr/bin"), ("dev", .folder devices), ("etc", .folder hostSettings), ("lib", .link "usr/lib"),
    ("lib64", .link "usr/lib64"), ("sbin", .link "usr/sbin"),
    ("proc", .folder [("self", .folder [("exe", .file [])])]),
    ("usr", .folder (("bin", .folder programs) ::
      ("local", .folder (bareFolders (listed "bin etc games include lib man sbin share src"))) ::
      bareFolders (listed "games include lib lib64 libexec sbin share src"))),
    ("var", .folder (bareFolders (listed "backups cache lib local lock log mail opt run spool tmp")))] ++
    bareFolders (listed "boot home media mnt opt root run srv sys tmp")

def host : Disk := ⟨hostTree, ["root"]⟩

end Emplace.Program
